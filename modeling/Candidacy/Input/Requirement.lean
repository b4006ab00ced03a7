import Candidacy.Input.Fault

/-!
# Building requirements

Requirements and companies built from values of any kind. What is built is well formed: items are
non-blank and in normal form, composites have parts, names are trimmed. The parts of a composite are
walked through to the end once its operator is accepted, and not touched before.
-/

namespace Candidacy

namespace Operator

/-- What a value that denotes no operator is refused for: the refusal shows the value, if it can be
shown. -/
def unknown (room : Nat) (s : Store) (v : Value) : InputFault :=
  match s.shownWithin? room [] v with
  | .ok shown => .invalid (.operatorUnknown shown)
  | .error why => .unshowable why

/-- The operator that a value denotes, where so many calls may still be nested; `s` holds what the
value refers to. -/
def ofValueWithin (room : Nat) (s : Store) (v : Value) : Except InputFault Operator :=
  match v with
  | .none => .error (.invalid .operatorMissing)
  | .operator op => .ok op
  | .text t =>
    match ofName? t with
    | some op => .ok op
    | none => .error (unknown room s v)
  | _ => .error (unknown room s v)

def ofValue (s : Store) (v : Value) : Except InputFault Operator :=
  ofValueWithin Store.callLimit s v

end Operator

namespace Requirement

def ofItem (v : Value) : Except InvalidInput Requirement :=
  match v.text? with
  | some t => if Text.trim t = "" then .error .itemBlank else .ok (item (normalizeItem t))
  | none => .error .itemBlank

/-- The requirements that the values are, or what is wrong with the first that is none. -/
def ofParts : List Value → Except InvalidInput (List Requirement)
  | [] => .ok []
  | .requirement r :: vs => (r :: ·) <$> ofParts vs
  | .none :: _ => .error .partMissing
  | v :: _ => .error (.partKind v.kind)

/-- The composite of an operator and parts, of which there must be one at least. -/
def ofOperator (op : Operator) (parts : List Value) : Except InvalidInput Requirement :=
  if parts.isEmpty then .error .partsEmpty else composite op <$> ofParts parts

/-- The composite that an operator and a collection of parts make, and the store after the walk
through the parts. -/
def ofValues (s : Store) (operator parts : Value) : Except InputFault Requirement × Store :=
  match Operator.ofValue s operator with
  | .error why => (.error why, s)
  | .ok op =>
    match parts with
    | .none | .text _ | .operator _ | .bytes _ => (.error (.invalid .partsEmpty), s)
    | _ =>
      match s.elements? parts with
      | none => (.error (.invalid .partsNotSequence), s)
      | some vs => ((ofOperator op vs).mapError .invalid, s.exhaust parts)

end Requirement

namespace Company

def requirementOf : Value → Except InvalidInput (Option Requirement)
  | .none => .ok none
  | .requirement r => .ok (some r)
  | v => .error (.requirementKind v.kind)

def ofValues (name requirement : Value) : Except InvalidInput Company :=
  match name.text? with
  | some t =>
    if Text.trim t = "" then .error .nameBlank
    else (⟨Text.trim t, ·⟩) <$> requirementOf requirement
  | none => .error .nameBlank

end Company

end Candidacy
