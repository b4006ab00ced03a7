import Candidacy.Input.Requirement
import Candidacy.Proofs.Text.Capitals
import Candidacy.Proofs.Value.Shown
import Mathlib.Data.List.Forall2

/-!
# Names of operators

An operator is denoted by itself and by the texts that spell its name between white space, each
letter small or capital. The capital form of a text is the name just for these: a capital form that
is spelled out has a character that is in no name, and of the characters with one capital only ASCII
letters have one that is.

- `Operator.Spells`: the spellings of a name.
- `Operator.DenotedBy`: the values that denote an operator.
- `Operator.read_as_denoted`: a value is read as the operator that it denotes, or refused. The refusal
  of an unknown operator shows the value; where that cannot be done, the refusal itself fails.
-/

namespace Candidacy.Operator

open Text

/-! ## Letters -/

def nameCodes : List Nat := [0x41, 0x4E, 0x44, 0x4F, 0x52]

theorem toNat_mem_nameCodes {op : Operator} {c : Char} (h : c ∈ op.name.toList) :
    c.toNat ∈ nameCodes := by
  have hall : op.name.toList.all (nameCodes.contains ·.toNat) = true := by cases op <;> decide
  exact List.contains_iff_mem.mp (List.all_eq_true.mp hall c h)

theorem ascii_of_mem_nameCodes {n : Nat} (h : n ∈ nameCodes) : n < 0x80 := by
  have hall : ∀ m ∈ nameCodes, m < 0x80 := by decide
  exact hall n h

theorem mem_nameCodes_of_ofNat {n : Nat} (h : (Char.ofNat n).toNat ∈ nameCodes) :
    n ∈ nameCodes := by
  by_cases hvalid : n.isValidChar
  · rw [Char.ofNat, dif_pos hvalid] at h
    exact h
  · rw [Char.ofNat, dif_neg hvalid] at h
    exact absurd h (by decide)

/-- Whether the run takes no code point to a letter of a name. -/
def avoidsNames (r : Run) : Bool :=
  nameCodes.all fun m =>
    Nat.blt m (r.first + r.shift).toNat || Nat.blt (r.last + r.shift).toNat m

theorem upperRuns_foreign : (upperRuns.all fun r => r == asciiRun || avoidsNames r) = true := by
  decide +kernel

theorem upperSpellings_foreign :
    (upperSpellings.all fun (_, spelling) => spelling.any fun m => !nameCodes.contains m) = true := by
  decide +kernel

theorem not_mem_nameCodes_of_avoidsNames {r : Run} (h : avoidsNames r = true) {n : Nat}
    (hn : r.moves n = true) : (n + r.shift).toNat ∉ nameCodes := by
  intro hm
  have hapart := List.all_eq_true.mp h _ hm
  rw [Run.moves_iff] at hn
  simp only [Bool.or_eq_true, Nat.blt_eq] at hapart
  omega

theorem ascii_of_capital {c : Char} (h : (capital c).toNat ∈ nameCodes) : c.toNat < 0x80 := by
  rcases Run.image_cases upperRuns c.toNat with ⟨r, hr, hm, hi⟩ | ⟨hi, -⟩
  · rcases Bool.or_eq_true_iff.mp (List.all_eq_true.mp upperRuns_foreign r hr) with hrun | havoids
    · rw [beq_iff_eq.mp hrun, Run.moves_iff] at hm
      exact Nat.lt_of_le_of_lt hm.2.1 (by decide)
    · rw [capital, hi] at h
      exact absurd (mem_nameCodes_of_ofNat h) (not_mem_nameCodes_of_avoidsNames havoids hm)
  · rw [capital, hi, Char.ofNat_toNat] at h
    exact ascii_of_mem_nameCodes h

/-- A character whose capital form is made of letters of a name is an ASCII letter: what is spelled
out has a character that is in no name. -/
theorem ascii_of_upperChar {c : Char} (h : ∀ d ∈ upperChar c, d.toNat ∈ nameCodes) :
    c.toNat < 0x80 := by
  rcases upperChar_or_spelled c with hc | ⟨spelling, hmem, hupper⟩
  · rw [hc, List.forall_mem_singleton] at h
    exact ascii_of_capital h
  · obtain ⟨m, hm, hforeign⟩ :=
      List.any_eq_true.mp (List.all_eq_true.mp upperSpellings_foreign _ hmem)
    have hname := h (Char.ofNat m) (hupper ▸ List.mem_map_of_mem hm)
    rw [List.contains_iff_mem.mpr (mem_nameCodes_of_ofNat hname)] at hforeign
    cases hforeign

theorem ascii_of_letter {op : Operator} {c : Char} (h : c.toUpper ∈ op.name.toList) :
    c.toNat < 0x80 :=
  ascii_of_toUpper (ascii_of_mem_nameCodes (toNat_mem_nameCodes h))

theorem isBlank_of_letter {op : Operator} {c : Char} (h : c.toUpper ∈ op.name.toList) :
    isBlank c = false := by
  rw [Bool.eq_false_iff]
  intro hblank
  have hupper := upperChar_of_ascii (ascii_of_letter h)
  rw [upperChar_of_isBlank hblank, List.singleton_inj] at hupper
  have hname : op.name.toList.all (!isBlank ·) = true := by cases op <;> decide
  have hnot := List.all_eq_true.mp hname c.toUpper h
  rw [← hupper, hblank] at hnot
  cases hnot

/-! ## Spellings -/

/-- The name of the operator in letters each of which is small or capital. -/
def Spells (op : Operator) (cs : List Char) : Prop :=
  List.Forall₂ (fun c l => c = l ∨ c = l.toLower) cs op.name.toList

theorem toUpper_eq_iff {op : Operator} {c l : Char} (hl : l ∈ op.name.toList) :
    c.toUpper = l ↔ c = l ∨ c = l.toLower := by
  have hname : op.name.toList.all (fun l => l.toUpper == l && l.toLower.toUpper == l) = true := by
    cases op <;> decide
  have hsmall : ∀ k < 0x80, (Char.ofNat k).toUpper ∈ op.name.toList →
      Char.ofNat k = (Char.ofNat k).toUpper ∨ Char.ofNat k = (Char.ofNat k).toUpper.toLower := by
    cases op <;> decide +kernel
  constructor
  · rintro rfl
    have hc := hsmall c.toNat (ascii_of_letter hl)
    rw [Char.ofNat_toNat] at hc
    exact hc hl
  · have hcapital := List.all_eq_true.mp hname l hl
    rw [Bool.and_eq_true, beq_iff_eq, beq_iff_eq] at hcapital
    rintro (rfl | rfl)
    · exact hcapital.1
    · exact hcapital.2

theorem spells_iff {op : Operator} {cs : List Char} :
    op.Spells cs ↔ cs.map Char.toUpper = op.name.toList := by
  have hletter {c l : Char} (h : (c, l) ∈ cs.zip op.name.toList) :
      (c = l ∨ c = l.toLower) ↔ c.toUpper = l :=
    (toUpper_eq_iff (List.of_mem_zip h).2).symm
  calc op.Spells cs
      ↔ List.Forall₂ (fun c l => c.toUpper = l) cs op.name.toList := by
        rw [Spells, List.forall₂_iff_zip, List.forall₂_iff_zip]
        exact and_congr_right fun _ => ⟨fun h c l hm => (hletter hm).mp (h hm),
          fun h c l hm => (hletter hm).mpr (h hm)⟩
    _ ↔ List.Forall₂ Eq (cs.map Char.toUpper) op.name.toList := List.forall₂_map_left_iff.symm
    _ ↔ cs.map Char.toUpper = op.name.toList := by rw [List.forall₂_eq_eq_eq]

theorem Spells.letter {op : Operator} {cs : List Char} (h : op.Spells cs) {c : Char} (hc : c ∈ cs) :
    c.toNat < 0x80 ∧ isBlank c = false := by
  have hname : c.toUpper ∈ op.name.toList := spells_iff.mp h ▸ List.mem_map_of_mem hc
  exact ⟨ascii_of_letter hname, isBlank_of_letter hname⟩

theorem Spells.trimmed {op : Operator} {cs : List Char} (h : op.Spells cs) : Trimmed cs :=
  ⟨fun _ hc => (h.letter (List.mem_of_head? hc)).2, fun _ hc => (h.letter (List.mem_of_getLast? hc)).2⟩

/-- Only the spellings of a name have it for their capital form. -/
theorem upperChars_eq_name_iff {op : Operator} {cs : List Char} :
    upperChars cs = op.name.toList ↔ op.Spells cs := by
  rw [spells_iff]
  have hmap (h : ∀ c ∈ cs, c.toNat < 0x80) : upperChars cs = cs.map Char.toUpper :=
    upperChars_eq_map fun c hc => upperChar_of_ascii (h c hc)
  constructor
  · intro h
    have hascii (c : Char) (hc : c ∈ cs) : c.toNat < 0x80 := by
      refine ascii_of_upperChar fun d hd => ?_
      have hname : d ∈ op.name.toList := h ▸ List.mem_flatMap.mpr ⟨c, hc, hd⟩
      exact toNat_mem_nameCodes hname
    rw [← hmap hascii, h]
  · intro h
    rw [hmap fun c hc => ascii_of_letter (h ▸ List.mem_map_of_mem hc : c.toUpper ∈ op.name.toList), h]

theorem name_injective {o p : Operator} (h : o.name = p.name) : o = p := by
  have hall : ∀ o p : Operator, o.name = p.name → o = p := by
    intro o p
    cases o <;> cases p <;> decide
  exact hall o p h

/-- A text is read as the operator whose name it spells, white space around it aside. -/
theorem ofName?_eq_some_iff {op : Operator} {t : String} :
    ofName? t = some op ↔ op.Spells (trimChars t.toList) := by
  rw [← upperChars_eq_name_iff, ← toList_trim, ← toList_upper, String.toList_inj]
  have hread {o : Operator} (h : upper (trim t) = o.name) :
      some o = some op ↔ upper (trim t) = op.name :=
    ⟨fun e => Option.some.inj e ▸ h, fun e => congrArg some (name_injective (h.symm.trans e))⟩
  simp only [ofName?]
  split
  case isTrue hall => exact hread hall
  case isFalse hall =>
    split
    case isTrue hany => exact hread hany
    case isFalse hany =>
      refine iff_of_false (fun h => by cases h) fun h => ?_
      cases op with
      | all => exact hall h
      | any => exact hany h

theorem ofName?_of_letters {op : Operator} {name : String}
    (h : name.toList.map Char.toUpper = op.name.toList) : ofName? name = some op := by
  have hspells : op.Spells name.toList := spells_iff.mpr h
  rw [ofName?_eq_some_iff, hspells.trimmed.trimChars_eq]
  exact hspells

/-! ## Values -/

/-- The values that denote an operator: itself, and its name between white space. -/
inductive DenotedBy (op : Operator) : Value → Prop
  | itself : DenotedBy op (.operator op)
  | named {t : String} {v cs w : List Char} : t.toList = v ++ cs ++ w → Blank v → Blank w →
    op.Spells cs → DenotedBy op (.text t)

theorem denotedBy_text_iff {op : Operator} {t : String} :
    op.DenotedBy (.text t) ↔ op.Spells (trimChars t.toList) := by
  constructor
  · rintro ⟨⟩
    rename_i hv hw hspells ht
    rw [ht, trimChars_padded hv hspells.trimmed hw]
    exact hspells
  · intro h
    obtain ⟨v, w, hv, hw, ht⟩ := exists_padding t.toList
    exact .named ht hv hw h

theorem DenotedBy.unique {o p : Operator} {v : Value} (ho : o.DenotedBy v) (hp : p.DenotedBy v) :
    o = p := by
  cases v with
  | operator op =>
    cases ho
    cases hp
    rfl
  | text t =>
    rw [denotedBy_text_iff, ← ofName?_eq_some_iff] at ho hp
    exact Option.some.inj (ho.symm.trans hp)
  | _ => cases ho

section Reading

variable (s : Store) (v : Value)

/-- A value is read as an operator that it denotes, or refused because it denotes none. -/
theorem ofValueWithin_cases :
    (∃ op : Operator, op.DenotedBy v ∧ ∀ room, ofValueWithin room s v = .ok op) ∨
      (∀ op : Operator, ¬ op.DenotedBy v) ∧
        (v = .none ∧ (∀ room, ofValueWithin room s v = .error (.invalid .operatorMissing)) ∨
          v ≠ .none ∧ ∀ room, ofValueWithin room s v = .error (Operator.unknown room s v)) := by
  cases v with
  | operator op => exact .inl ⟨op, .itself, fun _ => rfl⟩
  | text t =>
    cases h : ofName? t with
    | some op =>
      exact .inl ⟨op, denotedBy_text_iff.mpr (ofName?_eq_some_iff.mp h), fun room => by
        rw [ofValueWithin, h]⟩
    | none =>
      refine .inr ⟨fun op hop => ?_, .inr ⟨by rintro ⟨⟩, fun room => by rw [ofValueWithin, h]⟩⟩
      rw [denotedBy_text_iff, ← ofName?_eq_some_iff, h] at hop
      cases hop
  | none => exact .inr ⟨by rintro _ ⟨⟩, .inl ⟨rfl, fun _ => rfl⟩⟩
  | _ => exact .inr ⟨by rintro _ ⟨⟩, .inr ⟨by rintro ⟨⟩, fun _ => rfl⟩⟩

variable {s v} {room : Nat}

theorem unknown_cases :
    (∃ shown, Operator.unknown room s v = .invalid (.operatorUnknown shown)) ∨
      ∃ why, Operator.unknown room s v = .unshowable why ∧ s.Hinders room v why := by
  rw [Operator.unknown]
  cases h : s.shownWithin? room [] v with
  | ok shown => exact .inl ⟨shown, rfl⟩
  | error why => exact .inr ⟨why, rfl, Store.hinders_of_error h⟩

theorem ofValueWithin_eq_error {fault : InputFault} (h : ofValueWithin room s v = .error fault) :
    (∀ op : Operator, ¬ op.DenotedBy v) ∧
      (v = .none ∧ fault = .invalid .operatorMissing ∨
        v ≠ .none ∧ ((∃ shown, fault = .invalid (.operatorUnknown shown)) ∨
          ∃ why, fault = .unshowable why ∧ s.Hinders room v why)) := by
  rcases ofValueWithin_cases s v with ⟨o, -, hread⟩ | ⟨hnot, ⟨hnone, hread⟩ | ⟨hne, hread⟩⟩
  all_goals
    rw [hread] at h
    cases h
  · exact ⟨hnot, .inl ⟨hnone, rfl⟩⟩
  · exact ⟨hnot, .inr ⟨hne, unknown_cases⟩⟩

end Reading

end Candidacy.Operator
