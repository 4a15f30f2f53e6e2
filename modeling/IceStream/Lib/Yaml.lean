import IceStream.Lib.Convert

/-!
# YAML values

What a safe YAML loader hands out. Keys are any hashable values; of a date, a
set, bytes and the like only what conversions make of it is here.
-/

namespace Python

/-- An object as its conversions show it. -/
structure PyObject where
  typeName : String
  truthy : Bool
  hashable : Bool
  shown : Text
  toInt : Except Exc ℤ
  toFloat : Except Exc Float

inductive Yaml
  | null
  | bool (b : Bool)
  | int (i : ℤ)
  | float (f : Float)
  | str (s : Text)
  | list (items : List Yaml)
  | dict (entries : List (Yaml × Yaml))
  | object (o : PyObject)

instance : Inhabited Yaml := ⟨.null⟩

namespace Yaml

def truthy : Yaml → Bool
  | .null => false
  | .bool b => b
  | .int i => i != 0
  | .float f => !(f == 0)
  | .str s => !s.isEmpty
  | .list items => !items.isEmpty
  | .dict entries => !entries.isEmpty
  | .object o => o.truthy

/-- `type(v).__name__` -/
def typeName : Yaml → String
  | .null => "NoneType"
  | .bool _ => "bool"
  | .int _ => "int"
  | .float _ => "float"
  | .str _ => "str"
  | .list _ => "list"
  | .dict _ => "dict"
  | .object o => o.typeName

/-- `hash(v)`, as far as it may raise. -/
def hashed (v : Yaml) : Except Exc Unit :=
  let unhashable : Exc := typeError (text s!"unhashable type: '{v.typeName}'")
  match v with
  | .list _ => .error unhashable
  | .dict _ => .error unhashable
  | .object o => if o.hashable then .ok () else .error unhashable
  | _ => .ok ()

mutual

/-- `repr(v)` -/
def repr (u : Unicode) : Yaml → Text
  | .null => Json.null.repr u
  | .bool b => (Json.bool b).repr u
  | .int i => (Json.int i).repr u
  | .float f => (Json.float f).repr u
  | .str s => reprText u s
  | .list items => text "[" ++ (text ", ").intercalate (reprItems u items) ++ text "]"
  | .dict entries =>
    text "\x7b" ++ (text ", ").intercalate (reprEntries u entries) ++ text "\x7d"
  | .object o => o.shown

def reprItems (u : Unicode) : List Yaml → List Text
  | [] => []
  | v :: vs => v.repr u :: reprItems u vs

def reprEntries (u : Unicode) : List (Yaml × Yaml) → List Text
  | [] => []
  | p :: ps => (p.1.repr u ++ text ": " ++ p.2.repr u) :: reprEntries u ps

end

/-- `str(v)` -/
def toText (u : Unicode) : Yaml → Text
  | .str s => s
  | v => v.repr u

/-- `int(v)` -/
def toInt (u : Unicode) : Yaml → Except Exc ℤ
  | .null => Json.null.toInt u
  | .bool b => (Json.bool b).toInt u
  | .int i => (Json.int i).toInt u
  | .float f => (Json.float f).toInt u
  | .str s => (Json.str s).toInt u
  | .list _ => (Json.arr []).toInt u
  | .dict _ => (Json.obj []).toInt u
  | .object o => o.toInt

/-- `float(v)` -/
def toFloat (u : Unicode) : Yaml → Except Exc Float
  | .null => Json.null.toFloat u
  | .bool b => (Json.bool b).toFloat u
  | .int i => (Json.int i).toFloat u
  | .float f => (Json.float f).toFloat u
  | .str s => (Json.str s).toFloat u
  | .list _ => (Json.arr []).toFloat u
  | .dict _ => (Json.obj []).toFloat u
  | .object o => o.toFloat

end Yaml

/-- A `dict` of a YAML document. -/
abbrev YamlDict := List (Yaml × Yaml)

namespace YamlDict

/-- `d.get(k)` for a text `k` -/
def get? (d : YamlDict) (k : Text) : Option Yaml :=
  (d.find? fun p => match p.1 with
    | .str s => s == k
    | _ => false).map Prod.snd

/-- `d.get(k, default)` -/
def getD (d : YamlDict) (k : Text) (default : Yaml) : Yaml := (d.get? k).getD default

end YamlDict

end Python
