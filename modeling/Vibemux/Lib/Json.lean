import Mathlib

/-!
# JSON values

A parsed JSON value and the accessors that a reader of untrusted records uses. A number is an integer
of the machine's width or a float; the accessors below never look into a float, so it is kept as its
text.
-/

/-- A JSON value. -/
inductive Json where
  | null
  | bool (value : Bool)
  | int (value : Int)
  | float (text : String)
  | str (text : String)
  | arr (items : List Json)
  | obj (fields : List (String × Json))

namespace Json

mutual

def decEq : (a b : Json) → Decidable (a = b)
  | null, null => isTrue rfl
  | bool a, bool b => decidable_of_iff (a = b) (by simp)
  | int a, int b => decidable_of_iff (a = b) (by simp)
  | float a, float b => decidable_of_iff (a = b) (by simp)
  | str a, str b => decidable_of_iff (a = b) (by simp)
  | arr a, arr b =>
    match decEqItems a b with
    | isTrue h => isTrue (congrArg arr h)
    | isFalse h => isFalse fun heq => h (arr.inj heq)
  | obj a, obj b =>
    match decEqMembers a b with
    | isTrue h => isTrue (congrArg obj h)
    | isFalse h => isFalse fun heq => h (obj.inj heq)
  | null, bool _ | null, int _ | null, float _ | null, str _ | null, arr _ | null, obj _ => isFalse nofun
  | bool _, null | bool _, int _ | bool _, float _ | bool _, str _ | bool _, arr _ | bool _, obj _ => isFalse nofun
  | int _, null | int _, bool _ | int _, float _ | int _, str _ | int _, arr _ | int _, obj _ => isFalse nofun
  | float _, null | float _, bool _ | float _, int _ | float _, str _ | float _, arr _ | float _, obj _ =>
    isFalse nofun
  | str _, null | str _, bool _ | str _, int _ | str _, float _ | str _, arr _ | str _, obj _ => isFalse nofun
  | arr _, null | arr _, bool _ | arr _, int _ | arr _, float _ | arr _, str _ | arr _, obj _ => isFalse nofun
  | obj _, null | obj _, bool _ | obj _, int _ | obj _, float _ | obj _, str _ | obj _, arr _ => isFalse nofun

def decEqItems : (a b : List Json) → Decidable (a = b)
  | [], [] => isTrue rfl
  | [], _ :: _ => isFalse nofun
  | _ :: _, [] => isFalse nofun
  | a :: as, b :: bs =>
    match decEq a b, decEqItems as bs with
    | isTrue h, isTrue hs => isTrue (by rw [h, hs])
    | isFalse h, _ => isFalse fun heq => h (List.cons.inj heq).1
    | _, isFalse h => isFalse fun heq => h (List.cons.inj heq).2

def decEqMembers : (a b : List (String × Json)) → Decidable (a = b)
  | [], [] => isTrue rfl
  | [], _ :: _ => isFalse nofun
  | _ :: _, [] => isFalse nofun
  | (m, a) :: as, (n, b) :: bs =>
    match decEq a b, decEqMembers as bs with
    | isTrue h, isTrue hs => decidable_of_iff (m = n) (by simp [h, hs])
    | isFalse h, _ => isFalse fun heq => h (Prod.mk.inj (List.cons.inj heq).1).2
    | _, isFalse h => isFalse fun heq => h (List.cons.inj heq).2

end

instance : DecidableEq Json := decEq

/-- The member of an object. -/
def get (value : Json) (name : String) : Option Json :=
  match value with
  | obj fields => (fields.find? fun field => field.1 == name).map Prod.snd
  | _ => none

/-- The member at a path of names. -/
def pointer (value : Json) : List String → Option Json
  | [] => some value
  | name :: rest => (value.get name).bind fun member => member.pointer rest

def asStr : Json → Option String
  | str text => some text
  | _ => none

/-- An unsigned integer that fits 64 bits. -/
def asU64 : Json → Option Nat
  | int value => if 0 ≤ value ∧ value < 2 ^ 64 then some value.toNat else none
  | _ => none

/-- An integer that fits 64 bits with a sign. -/
def asI64 : Json → Option Int
  | int value => if -2 ^ 63 ≤ value ∧ value < 2 ^ 63 then some value else none
  | _ => none

def isObject : Json → Bool
  | obj _ => true
  | _ => false

/-- The text of a member. -/
def getStr (value : Json) (name : String) : Option String := (value.get name).bind asStr

/-- The text at a path. -/
def pointerStr (value : Json) (path : List String) : Option String := (value.pointer path).bind asStr

@[simp]
theorem get_obj_cons (name key : String) (value : Json) (fields : List (String × Json)) :
    (obj ((key, value) :: fields)).get name =
      if key = name then some value else (obj fields).get name := by
  by_cases h : key = name <;> simp [get, h]

@[simp]
theorem get_obj_nil (name : String) : (obj []).get name = none := rfl

/-! ## Objects as finite maps -/

/-- Names are compared by their UTF-8 bytes. -/
def compareNames (a b : String) : Ordering :=
  compare a.toByteArray.data.toList b.toByteArray.data.toList

mutual

/-- Every object lists its members in ascending order of their names: it is a finite map, and two maps
are equal exactly when their lists are. -/
def Ordered : Json → Prop
  | arr items => OrderedItems items
  | obj fields => fields.Pairwise (fun a b => compareNames a.1 b.1 = .lt) ∧ OrderedMembers fields
  | _ => True

def OrderedItems : List Json → Prop
  | [] => True
  | item :: rest => Ordered item ∧ OrderedItems rest

def OrderedMembers : List (String × Json) → Prop
  | [] => True
  | (_, value) :: rest => Ordered value ∧ OrderedMembers rest

end

mutual

/-- The value and all that it contains, each with its depth, the value itself at `depth`. -/
def nested (depth : Nat) : Json → List (Nat × Json)
  | arr items => (depth, arr items) :: nestedItems (depth + 1) items
  | obj fields => (depth, obj fields) :: nestedMembers (depth + 1) fields
  | value => [(depth, value)]

def nestedItems (depth : Nat) : List Json → List (Nat × Json)
  | [] => []
  | item :: rest => nested depth item ++ nestedItems depth rest

def nestedMembers (depth : Nat) : List (String × Json) → List (Nat × Json)
  | [] => []
  | (_, value) :: rest => nested depth value ++ nestedMembers depth rest

end

/-- A JSON document: a value whose objects are finite maps. -/
structure Document where
  value : Json
  ordered : value.Ordered

@[ext]
theorem Document.ext {a b : Document} (h : a.value = b.value) : a = b := by
  cases a
  cases b
  simpa using h

end Json
