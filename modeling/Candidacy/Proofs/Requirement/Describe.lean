import Candidacy.Proofs.Requirement.WellFormed
import Candidacy.Proofs.Session.Work

/-!
# Reading descriptions back

Two requirements are alike if they are the same tree but for the operators of composites of one
part, which no description shows. On items without brackets two requirements with one description
are alike: what can follow the description of a part tells where it ends, as it is no part of any
item.

- `Alike`: the same tree, as far as descriptions show.
- `Joined`: what can follow a description.
- `Readable.separate`: a description shows its requirement and its own end.
-/

namespace Candidacy.Requirement

mutual
/-- The same shape and items, and the same operators wherever there are two parts or more. -/
def Alike : Requirement → Requirement → Prop
  | item a, item b => a = b
  | composite op ps, composite op' qs => AllAlike ps qs ∧ (2 ≤ ps.length → op = op')
  | _, _ => False
termination_by structural r => r

def AllAlike : List Requirement → List Requirement → Prop
  | [], [] => True
  | p :: ps, q :: qs => Alike p q ∧ AllAlike ps qs
  | _, _ => False
termination_by structural rs => rs
end

/-! ## What is alike has one description and one meaning -/

mutual
theorem Alike.describe_eq : ∀ {t u : Requirement}, Alike t u → t.describe = u.describe
  | item _, item _, h => h
  | composite op ps, composite op' qs, ⟨hparts, hop⟩ => by
    have hall := hparts.describeAll_eq
    by_cases htwo : 2 ≤ ps.length
    · rw [describe, describe, hall, hop htwo]
    · match ps, qs with
      | [], [] => rfl
      | [p], [q] => exact congrArg ("(" ++ · ++ ")") (List.cons.inj hall).1
      | _ :: _ :: ps, _ => exact absurd (Nat.le_add_left 2 ps.length) htwo

theorem AllAlike.describeAll_eq :
    ∀ {ps qs : List Requirement}, AllAlike ps qs → describeAll ps = describeAll qs
  | [], [], _ => rfl
  | p :: ps, q :: qs, ⟨h, hs⟩ => by rw [describeAll, describeAll, h.describe_eq, hs.describeAll_eq]
end

mutual
theorem Alike.leaves_eq : ∀ {t u : Requirement}, Alike t u → t.leaves = u.leaves
  | item _, item _, h => congrArg (fun a => [a]) h
  | composite _ _, composite _ _, ⟨hparts, _⟩ => hparts.leavesAll_eq

theorem AllAlike.leavesAll_eq :
    ∀ {ps qs : List Requirement}, AllAlike ps qs → leavesAll ps = leavesAll qs
  | [], [], _ => rfl
  | p :: ps, q :: qs, ⟨h, hs⟩ => by rw [leavesAll, leavesAll, h.leaves_eq, hs.leavesAll_eq]
end

mutual
theorem Alike.holds_eq (held : List String) :
    ∀ {t u : Requirement}, Alike t u → t.WellFormed → t.holds held = u.holds held
  | item _, item _, h, _ => congrArg held.contains h
  | composite op ps, composite op' qs, ⟨hparts, hop⟩, .composite hne hwf => by
    have hall := hparts.map_holds_eq held hwf
    by_cases htwo : 2 ≤ ps.length
    · cases hop htwo
      exact holds_composite_congr hall
    · match ps, qs with
      | [], _ => exact absurd rfl hne
      | [p], [q] =>
        -- one part decides alone, under either operator
        rw [holds_singleton, holds_singleton]
        exact (List.cons.inj hall).1
      | _ :: _ :: ps, _ => exact absurd (Nat.le_add_left 2 ps.length) htwo

theorem AllAlike.map_holds_eq (held : List String) :
    ∀ {ps qs : List Requirement}, AllAlike ps qs → (∀ r ∈ ps, r.WellFormed) →
      ps.map (holds held) = qs.map (holds held)
  | [], [], _, _ => rfl
  | p :: ps, q :: qs, ⟨h, hs⟩, hwf => by
    rw [List.map_cons, List.map_cons, h.holds_eq held (hwf p List.mem_cons_self),
      hs.map_holds_eq held fun r hr => hwf r (List.mem_cons_of_mem p hr)]
end

/-! ## Where the description of a part ends -/

def joint (op : Operator) : List Char := ' ' :: op.name.toList ++ [' ']

/-- What follows the first part of a composite up to its closing bracket, and `x` behind it. -/
def rest (op : Operator) : List Requirement → List Char → List Char
  | [], x => ')' :: x
  | p :: ps, x => joint op ++ (p.describe.toList ++ rest op ps x)

/-- What can follow a description: nothing, a closing bracket or a joint. -/
inductive Joined : List Char → Prop
  | nil : Joined []
  | close (x : List Char) : Joined (')' :: x)
  | joint (op : Operator) (x : List Char) : Joined (joint op ++ x)

theorem joined_rest (op : Operator) (ps : List Requirement) (x : List Char) :
    Joined (rest op ps x) := by
  cases ps with
  | nil => exact .close x
  | cons p ps => exact .joint op _

theorem joint_append_inj {op op' : Operator} {x y : List Char}
    (h : joint op ++ x = joint op' ++ y) : op = op' ∧ x = y := by
  cases op <;> cases op' <;> simp_all [joint, Operator.name]

theorem joint_append_eq (op : Operator) (x : List Char) :
    ∃ d z, joint op ++ x = ' ' :: d :: z ∧ 0x41 ≤ d.toNat ∧ d.toNat ≤ 0x5A := by
  cases op with
  | all => exact ⟨'A', _, rfl, by decide, by decide⟩
  | any => exact ⟨'O', _, rfl, by decide, by decide⟩

theorem intercalate_append_close (op : Operator) (p : Requirement) (ps : List Requirement)
    (x : List Char) :
    (joint op).intercalate ((p :: ps).map (·.describe.toList)) ++ ')' :: x =
      p.describe.toList ++ rest op ps x := by
  induction ps generalizing p with
  | nil => rw [List.map_singleton, List.intercalate_singleton, rest]
  | cons q qs ih =>
    rw [rest, ← ih q, List.map_cons, List.map_cons, List.intercalate_cons_cons, List.append_assoc,
      List.append_assoc]

theorem describe_composite_append (op : Operator) (p : Requirement) (ps : List Requirement)
    (x : List Char) :
    (composite op (p :: ps)).describe.toList ++ x = '(' :: (p.describe.toList ++ rest op ps x) := by
  have hjoint : (" " ++ op.name ++ " ").toList = joint op := by
    rw [String.toList_append, String.toList_append]
    rfl
  rw [describe_composite, String.toList_append, String.toList_append, String.toList_intercalate,
    hjoint, List.map_map, ← intercalate_append_close, List.append_assoc, List.append_assoc]
  rfl

/-- The characters of a readable item: some, trimmed and small, and no bracket among them. -/
structure Plain (cs : List Char) : Prop where
  ne_nil : cs ≠ []
  no_open : '(' ∉ cs
  no_close : ')' ∉ cs
  small : ∀ c ∈ cs, Text.IsSmall c
  trimmed : Text.Trimmed cs

theorem Plain.ne_open {cs x y : List Char} (h : Plain cs) : cs ++ x ≠ '(' :: y := by
  intro heq
  cases cs with
  | nil => exact h.ne_nil rfl
  | cons c cs =>
    obtain ⟨rfl, -⟩ := List.cons.inj heq
    exact h.no_open List.mem_cons_self

/-- An item does not go on into what can follow it: a joint has a capital behind its blank. -/
theorem Plain.eq_nil_of_joined {a c y : List Char} (h : Plain (a ++ c)) (hj : Joined (c ++ y)) :
    c = [] := by
  generalize hz : c ++ y = z at hj
  cases hj with
  | nil => exact (List.append_eq_nil_iff.mp hz).1
  | close x =>
    match c with
    | [] => rfl
    | d :: c =>
      obtain ⟨rfl, -⟩ := List.cons.inj hz
      exact absurd (List.mem_append_right a List.mem_cons_self) h.no_close
  | joint op x =>
    match c with
    | [] => rfl
    | [d] =>
      obtain ⟨rfl, -⟩ := List.cons.inj hz
      have hlast := h.trimmed.2 ' ' (by rw [List.getLast?_append]; rfl)
      cases hlast
    | b :: d :: c =>
      obtain ⟨d', z, hdz, hcapital⟩ := joint_append_eq op x
      rw [hdz] at hz
      obtain ⟨-, hz⟩ := List.cons.inj hz
      obtain ⟨rfl, -⟩ := List.cons.inj hz
      have hd : d ∈ a ++ b :: d :: c := by simp
      exact absurd hcapital (h.small d hd).not_capital

theorem Plain.append_inj {a b x y : List Char} (ha : Plain a) (hb : Plain b) (hx : Joined x)
    (hy : Joined y) (h : a ++ x = b ++ y) : a = b ∧ x = y := by
  rcases List.append_eq_append_iff.mp h with ⟨c, rfl, rfl⟩ | ⟨c, rfl, rfl⟩
  · cases hb.eq_nil_of_joined hx
    exact ⟨(List.append_nil a).symm, rfl⟩
  · cases ha.eq_nil_of_joined hy
    exact ⟨List.append_nil b, rfl⟩

/-! ## What a description says -/

def NoBrackets (r : Requirement) : Prop := ∀ x ∈ r.leaves, '(' ∉ x.toList ∧ ')' ∉ x.toList

/-- A requirement that can be read back: well formed and without brackets in its items. -/
structure Readable (r : Requirement) : Prop where
  wellFormed : r.WellFormed
  noBrackets : r.NoBrackets

theorem Readable.part {op : Operator} {ps : List Requirement} (h : (composite op ps).Readable)
    {r : Requirement} (hr : r ∈ ps) : r.Readable :=
  ⟨h.wellFormed.part hr, fun x hx => h.noBrackets x (mem_leaves_composite.mpr ⟨r, hr, hx⟩)⟩

theorem Readable.plain {name : String} (h : (item name).Readable) : Plain name.toList := by
  obtain ⟨hwf, hb⟩ := h
  have hmem : name ∈ (item name).leaves := List.mem_singleton_self name
  obtain ⟨hopen, hclose⟩ := hb name hmem
  obtain ⟨htrim, hsmall⟩ := normalizeItem_eq_self_iff.mp (hwf.normalizeItem_leaf hmem)
  refine ⟨fun hnil => hwf.leaf_ne_empty hmem ?_, hopen, hclose, hsmall, htrim⟩
  rw [← String.toList_inj, hnil, String.toList_empty]

/-- The descriptions of the two requirements agree only where these are alike, and end together. -/
def Separate (t u : Requirement) : Prop :=
  ∀ x y, Joined x → Joined y → t.describe.toList ++ x = u.describe.toList ++ y → Alike t u ∧ x = y

/-- What follows the first part of a composite shows the other parts, the end and, if there are
other parts, the operator. -/
theorem allAlike_of_rest {op op' : Operator} {ps qs : List Requirement} {x y : List Char}
    (hsep : ∀ p ∈ ps, ∀ q ∈ qs, Separate p q) (h : rest op ps x = rest op' qs y) :
    AllAlike ps qs ∧ (ps ≠ [] → op = op') ∧ x = y := by
  induction ps generalizing qs with
  | nil =>
    cases qs with
    | nil => exact ⟨trivial, fun hne => absurd rfl hne, (List.cons.inj h).2⟩
    | cons q qs => cases h
  | cons p ps ih =>
    cases qs with
    | nil => cases h
    | cons q qs =>
      rw [List.forall_mem_cons] at hsep
      obtain ⟨hp, hps⟩ := hsep
      obtain ⟨hop, h⟩ := joint_append_inj h
      obtain ⟨hpq, h⟩ := hp q List.mem_cons_self _ _ (joined_rest ..) (joined_rest ..) h
      obtain ⟨hall, -, hxy⟩ := ih (fun p hp q hq => hps p hp q (List.mem_cons_of_mem _ hq)) h
      exact ⟨⟨hpq, hall⟩, fun _ => hop, hxy⟩

theorem separate_composite {op op' : Operator} {p q : Requirement} {ps qs : List Requirement}
    (hsep : ∀ p' ∈ p :: ps, ∀ q' ∈ q :: qs, Separate p' q') :
    Separate (composite op (p :: ps)) (composite op' (q :: qs)) := by
  intro x y hx hy h
  rw [describe_composite_append, describe_composite_append] at h
  obtain ⟨hpq, h⟩ := hsep p List.mem_cons_self q List.mem_cons_self _ _ (joined_rest ..)
    (joined_rest ..) (List.cons.inj h).2
  obtain ⟨hall, hop, hxy⟩ := allAlike_of_rest (fun p' hp q' hq =>
    hsep p' (List.mem_cons_of_mem _ hp) q' (List.mem_cons_of_mem _ hq)) h
  refine ⟨⟨⟨hpq, hall⟩, fun htwo => hop ?_⟩, hxy⟩
  rintro rfl
  exact Nat.not_succ_le_self 1 htwo

/-- A description shows its requirement and where it ends, whatever stands behind it. -/
theorem Readable.separate {t u : Requirement} (ht : t.Readable) (hu : u.Readable) :
    Separate t u := by
  induction t using induct generalizing u with
  | item a =>
    intro x y hx hy h
    cases u with
    | item b =>
      obtain ⟨hab, hxy⟩ := ht.plain.append_inj hu.plain hx hy h
      exact ⟨String.toList_inj.mp hab, hxy⟩
    | composite op qs =>
      obtain ⟨q, qs, rfl⟩ := hu.wellFormed.exists_cons
      rw [describe_composite_append] at h
      exact absurd h ht.plain.ne_open
  | composite op ps ih =>
    obtain ⟨p, ps, rfl⟩ := ht.wellFormed.exists_cons
    cases u with
    | item b =>
      intro x y hx hy h
      rw [describe_composite_append] at h
      exact absurd h.symm hu.plain.ne_open
    | composite op' qs =>
      obtain ⟨q, qs, rfl⟩ := hu.wellFormed.exists_cons
      exact separate_composite fun p' hp q' hq => ih p' hp (ht.part hp) (hu.part hq)

theorem Readable.alike_of_describe_eq {t u : Requirement} (ht : t.Readable) (hu : u.Readable)
    (h : t.describe = u.describe) : Alike t u := by
  refine (ht.separate hu [] [] .nil .nil ?_).1
  rw [h]

end Candidacy.Requirement
