import Mathlib.Data.List.Basic

/-!
# Python values as the agent receives them

Every command, payload and server reply reaches the agent as a decoded JSON
value, and the agent works on it with a handful of Python operations:
subscription, `dict.get`, truthiness, iteration, comparison with a string
literal, `str` and string concatenation.  This module gives each of them the
meaning CPython gives it on each kind of value, raising the exception CPython
raises where it does, so that the code built on them fails exactly where the
agent fails.
-/

namespace FleetdAgent

/-- An exception as the agent handles it: its class and what `str(e)` gives. -/
structure PyError where
  name : String
  text : String
  deriving Repr, DecidableEq

/-- A decoded JSON value.  A number keeps its integer value: the agent only
tests the sign and truthiness of numbers and passes them on unchanged. -/
inductive Json where
  | null
  | bool (b : Bool)
  | num (n : Int)
  | str (s : String)
  | arr (items : List Json)
  | obj (fields : List (String × Json))
  deriving Repr, Inhabited

namespace Json

/-- `type(v).__name__`, as the texts of `TypeError`s name it. -/
def typeName : Json → String
  | null => "NoneType"
  | bool _ => "bool"
  | num _ => "int"
  | str _ => "str"
  | arr _ => "list"
  | obj _ => "dict"

/-- `v[key]` for a string key: only a `dict` is subscriptable by a string. -/
def getItem (v : Json) (key : String) : Except PyError Json :=
  match v with
  | obj fields =>
      match fields.lookup key with
      | some x => .ok x
      | none => .error ⟨"KeyError", "'" ++ key ++ "'"⟩
  | arr _ => .error ⟨"TypeError", "list indices must be integers or slices, not str"⟩
  | str _ => .error ⟨"TypeError", "string indices must be integers"⟩
  | v => .error ⟨"TypeError", "'" ++ v.typeName ++ "' object is not subscriptable"⟩

/-- `v.get(key, default)`: only a `dict` has the method. -/
def get (v : Json) (key : String) (default : Json) : Except PyError Json :=
  match v with
  | obj fields => .ok ((fields.lookup key).getD default)
  | v => .error ⟨"AttributeError", "'" ++ v.typeName ++ "' object has no attribute 'get'"⟩

/-- `bool(v)`. -/
def truthy : Json → Bool
  | null => false
  | bool b => b
  | num n => n ≠ 0
  | str s => !s.isEmpty
  | arr items => !items.isEmpty
  | obj fields => !fields.isEmpty

/-- `for x in v`: a list yields its items, a string its characters and a
`dict` its keys. -/
def iter : Json → Except PyError (List Json)
  | arr items => .ok items
  | str s => .ok (s.toList.map fun c => str c.toString)
  | obj fields => .ok (fields.map fun field => str field.1)
  | v => .error ⟨"TypeError", "'" ++ v.typeName ++ "' object is not iterable"⟩

/-- `v == s` for a string literal `s`. -/
def isStr (s : String) : Json → Bool
  | str t => t == s
  | _ => false

mutual
/-- `str(v)`, as an f-string renders `v` (strings inside containers are
quoted, without escaping). -/
def toStr : Json → String
  | null => "None"
  | bool b => if b then "True" else "False"
  | num n => toString n
  | str s => s
  | arr items => "[" ++ itemsRepr items ++ "]"
  | obj fields => "\x7b" ++ fieldsRepr fields ++ "\x7d"

/-- The items of a list, as `repr` renders them. -/
def itemsRepr : List Json → String
  | [] => ""
  | [x] => match x with
    | str s => "'" ++ s ++ "'"
    | x => toStr x
  | x :: rest => (match x with
    | str s => "'" ++ s ++ "'"
    | x => toStr x) ++ ", " ++ itemsRepr rest

/-- The entries of a `dict`, as `repr` renders them. -/
def fieldsRepr : List (String × Json) → String
  | [] => ""
  | [(k, x)] => "'" ++ k ++ "': " ++ match x with
    | str s => "'" ++ s ++ "'"
    | x => toStr x
  | (k, x) :: rest => "'" ++ k ++ "': " ++ (match x with
    | str s => "'" ++ s ++ "'"
    | x => toStr x) ++ ", " ++ fieldsRepr rest
end

/-- `prefix + v`: Python concatenates a `str` only with a `str`. -/
def concatStr (pre : String) : Json → Except PyError String
  | str s => .ok (pre ++ s)
  | v => .error ⟨"TypeError", "can only concatenate str (not \"" ++ v.typeName ++ "\") to str"⟩

/-- `v > n` for an int literal `n`: a `bool` compares as `0` or `1`, and
anything but a number raises. -/
def gtInt (v : Json) (n : Int) : Except PyError Bool :=
  match v with
  | num m => .ok (decide (n < m))
  | bool b => .ok (decide (n < if b then 1 else 0))
  | v => .error ⟨"TypeError", "'>' not supported between instances of '" ++ v.typeName ++ "' and 'int'"⟩

@[simp] theorem get_obj (fields : List (String × Json)) (key : String) (default : Json) :
    (obj fields).get key default = .ok ((fields.lookup key).getD default) := rfl

@[simp] theorem isStr_str (s t : String) : (str t).isStr s = (t == s) := rfl

end Json

end FleetdAgent
