import IceStream.Lib.JsonRoundTrip
import IceStream.Lib.Utf8

/-!
# JSON as bytes

What is dumped and encoded on one side is decoded and loaded on the other.
-/

namespace Python

/-- `json.dumps(v).encode("utf-8")` -/
def dumpsUtf8 (v : Json) : Bytes := encodeUtf8 (text (v.dumps false))

/-- Without sorting, the keys stay in their order. -/
theorem Readable.arranged_false {depth : ℕ} {v : Json} (h : Readable depth v) :
    v.arranged false = v := by
  induction h with
  | arr h ih =>
    rw [arranged_arr]
    exact congrArg Json.arr ((List.map_congr_left ih).trans (List.map_id' _))
  | @obj depth kvs hkeys hjoined h ih =>
    have hsame : ∀ p ∈ kvs, (p.1, p.2.arranged false) = p := by
      intro p hp
      rw [ih p hp]
    rw [arranged_obj, sortedIf, if_neg (by decide)]
    exact congrArg Json.obj ((List.map_congr_left hsame).trans (List.map_id' kvs))
  | _ => rfl

/-- `json.loads(b.decode("utf-8"))` returns what was dumped. -/
theorem loads_dumpsUtf8 {limit depth : ℕ} {v : Json} (h : Readable depth v) (hdepth : depth ≤ limit) :
    (decodeUtf8 (dumpsUtf8 v) >>= loads limit) = .ok v := by
  have hdecoded : decodeUtf8 (dumpsUtf8 v) = .ok (text (v.dumps false)) :=
    decodeUtf8_encodeUtf8 (encodable_text _)
  rw [hdecoded]
  change loads limit (text (v.dumps false)) = .ok v
  rw [loads_dumps h hdepth false, h.arranged_false]

end Python
