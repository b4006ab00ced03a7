import Candidacy.Value.Store

/-!
# Equality of values

`equal` compares values: numbers by what they are worth, strings by their text, collections by their
members. A value that is not a number equals nothing, but it is the same member as itself. A member
of a set or a key of a table must not change, so `changeable?` names the kinds that cannot be one.
-/

namespace Candidacy

namespace Value

/-- The integer that a value counts as. -/
def int? : Value → Option Int
  | bool b => some (if b then 1 else 0)
  | int n => some n
  | _ => Option.none

def sameNumber (a b : Value) : Bool :=
  match a.int?, b.int? with
  | some m, some n => m == n
  | some m, Option.none => match b with
    | float x => x.toInt? == some m
    | _ => false
  | Option.none, some n => match a with
    | float x => x.toInt? == some n
    | _ => false
  | Option.none, Option.none => match a, b with
    | float x, float y => x.same y
    | _, _ => false

mutual
/-- The kind of the first part that can change, and so keeps the value out of sets and keys. -/
def changeable? : Value → Option Kind
  | list _ => some .list
  | table _ => some .table
  | set _ => some .set
  | settings _ => some .settings
  | report _ => some .report
  | tuple items => changeableAmong? items
  | record n r => (changeable? n).or (changeable? r)
  | _ => Option.none
termination_by structural v => v

def changeableAmong? : List Value → Option Kind
  | [] => Option.none
  | v :: vs => (changeable? v).or (changeableAmong? vs)
termination_by structural vs => vs
end

end Value

namespace Store

/-- How deep values are followed into each other. -/
def nestingLimit : Nat := 4096

def pairwise (same : Value → Value → Bool) : List Value → List Value → Bool
  | [], [] => true
  | a :: as, b :: bs => same a b && pairwise same as bs
  | _, _ => false

def isAmong (same : Value → Value → Bool) (v : Value) (members : List Value) : Bool :=
  members.any (same v)

def sameMembers (same : Value → Value → Bool) (xs ys : List Value) : Bool :=
  xs.length == ys.length && xs.all (isAmong same · ys)

def sameEntries (same : Value → Value → Bool) (xs ys : List (Value × Value)) : Bool :=
  xs.length == ys.length &&
    xs.all fun (k, v) => match ys.find? (same k ·.1) with
      | some (_, w) => same v w
      | none => false

/-- Equality of values nested to a depth. `member` asks whether they are one and the same member of
a collection, which a value that is not a number is of itself only. -/
def equalWithin (s : Store) : Nat → Bool → Value → Value → Bool
  | 0, _, _, _ => false
  | fuel + 1, member, a, b =>
    let same := equalWithin s fuel true
    match a, b with
    | .none, .none => true
    | .notANumber m, .notANumber n => member && m == n
    | .text _, _ | .operator _, _ => a.text? == b.text?
    | .bytes x, .bytes y => x == y
    | .tuple xs, .tuple ys => pairwise same xs ys
    | .set m, .set n => sameMembers same (s.setMembers m) (s.setMembers n)
    | .set m, .frozenSet ys | .frozenSet ys, .set m => sameMembers same (s.setMembers m) ys
    | .frozenSet xs, .frozenSet ys => sameMembers same xs ys
    | .list m, .list n => m == n || pairwise same (s.listItems m) (s.listItems n)
    | .table m, .table n => m == n || sameEntries same (s.entries m) (s.entries n)
    | .iterator m, .iterator n => m == n
    | .requirement r, .requirement t => decide (r = t)
    | .company c, .company d => decide (c = d)
    | .record n r, .record n' r' => same n n' && same r r'
    | .verdict v, .verdict w => decide (v = w)
    | .settings c, .settings d => decide (c = d)
    | .report r, .report t => decide (r = t)
    | .pipeline m, .pipeline n => m == n
    | .moment m, .moment n => m.same n
    | _, _ => a.sameNumber b

def equal (s : Store) (a b : Value) : Bool := s.equalWithin nestingLimit false a b

def sameMember (s : Store) (a b : Value) : Bool := s.equalWithin nestingLimit true a b

def addMember (s : Store) (members : List Value) (v : Value) : List Value :=
  if isAmong s.sameMember v members then members else members ++ [v]

def members (s : Store) (vs : List Value) : List Value := vs.foldl s.addMember []

/-- Enters a value under a key: in the place of the earlier one, or else at the end. -/
def putEntry (s : Store) (key value : Value) : List (Value × Value) → List (Value × Value)
  | [] => [(key, value)]
  | (k, v) :: rest =>
    if s.sameMember k key then (k, value) :: rest else (k, v) :: s.putEntry key value rest

def valueUnder? (s : Store) (ref : Nat) (name : String) : Option Value :=
  ((s.entries ref).find? fun (k, _) => k.text? == some name).map (·.2)

end Store

end Candidacy
