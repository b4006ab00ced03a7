import Candidacy.Proofs.Text.Padding

/-!
# Tables in order

The tables of spans and of runs are in the order of their code points, and their members do not
overlap. So a run that moves a code point is the only one that does, and two tables can be held
against each other in one walk through both, where trying all pairs would take too long.

- `Span.Precedes`: the order of the tables.
- `Span.Table`, `Run.Table`: lists of spans and of runs in that order.
- `Span.allApart`, `Span.allWithin`: whether the spans of one table lie outside, or inside, those of
  another.
- `Run.Table.image_of_moves`: a code point goes where any run that moves it takes it.
- `Run.Table.image_runsAt`: a table may be searched as a tree, which is faster when much is looked
  up in it.
-/

namespace Candidacy.Text

namespace Span

/-- The span has code points, and the other's come after them. -/
def Precedes (s t : Span) : Prop := s.first ≤ s.last ∧ s.last < t.first

instance : DecidableRel Precedes := fun s t =>
  inferInstanceAs (Decidable (s.first ≤ s.last ∧ s.last < t.first))

instance : IsTrans Span Precedes where
  trans s t u hst htu := by
    obtain ⟨hs, hst⟩ := hst
    obtain ⟨ht, htu⟩ := htu
    exact ⟨hs, by omega⟩

structure Table where
  spans : List Span
  ordered : spans.Pairwise Precedes

/-- The spans from the first that does not end before `s` begins. -/
def dropBefore (s : Span) (ts : List Span) : List Span :=
  ts.dropWhile fun t => Nat.blt t.last s.first

theorem dropBefore_sublist (s : Span) (ts : List Span) : (dropBefore s ts).Sublist ts :=
  List.dropWhile_sublist _

theorem mem_dropBefore_or {s t : Span} {ts : List Span} (h : t ∈ ts) :
    t ∈ dropBefore s ts ∨ t.last < s.first := by
  let p (t : Span) : Bool := Nat.blt t.last s.first
  rw [← List.takeWhile_append_dropWhile (p := p) (l := ts), List.mem_append] at h
  rcases h with h | h
  · have hp : p t = true := List.mem_takeWhile_imp h
    exact .inr (Nat.blt_eq.mp hp)
  · exact .inl h

/-- Whether no code point lies in a span of both tables, each of them in order. -/
def allApart : List Span → List Span → Bool
  | [], _ => true
  | s :: ss, ts =>
    match dropBefore s ts with
    | [] => true
    | t :: rest => Nat.blt s.last t.first && allApart ss (t :: rest)

theorem apart_of_allApart {a b : Table} (h : allApart a.spans b.spans = true) :
    ∀ s ∈ a.spans, ∀ t ∈ b.spans, s.apart t = true := by
  obtain ⟨ss, hss⟩ := a
  obtain ⟨ts, hts⟩ := b
  induction ss generalizing ts with
  | nil => exact nofun
  | cons s ss ih =>
    obtain ⟨hs, hss⟩ := List.pairwise_cons.mp hss
    -- what ends before `s` begins ends before every later span begins
    have hbefore (s' : Span) (hs' : s' ∈ s :: ss) (t : Span) (ht : t.last < s.first) :
        s'.apart t = true := by
      simp only [apart, Bool.or_eq_true, Nat.blt_eq]
      rcases List.mem_cons.mp hs' with rfl | hs'
      · exact .inr ht
      · obtain ⟨hle, hlt⟩ := hs s' hs'
        omega
    have hts' : (dropBefore s ts).Pairwise Precedes := hts.sublist (dropBefore_sublist s ts)
    intro s' hs' t ht
    rcases mem_dropBefore_or (s := s) ht with ht | ht
    · unfold allApart at h
      cases hrest : dropBefore s ts with
      | nil =>
        rw [hrest] at ht
        cases ht
      | cons t₀ rest =>
        rw [hrest] at h ht hts'
        simp only [Bool.and_eq_true, Nat.blt_eq] at h
        rcases List.mem_cons.mp hs' with rfl | hs'
        · simp only [apart, Bool.or_eq_true, Nat.blt_eq]
          rcases List.mem_cons.mp ht with rfl | ht
          · exact .inl h.1
          · obtain ⟨hle, hlt⟩ := (List.pairwise_cons.mp hts').1 t ht
            omega
        · exact ih hss (t₀ :: rest) hts' h.2 s' hs' t ht
    · exact hbefore s' hs' t ht

def allWithin : List Span → List Span → Bool
  | [], _ => true
  | s :: ss, ts =>
    match dropBefore s ts with
    | [] => false
    | t :: rest => Nat.ble t.first s.first && Nat.ble s.last t.last && allWithin ss (t :: rest)

theorem anyHas_of_allWithin {ss ts : List Span} (h : allWithin ss ts = true) {s : Span}
    (hs : s ∈ ss) {n : Nat} (hn : s.has n = true) : anyHas ts n = true := by
  rw [has_iff] at hn
  induction ss generalizing ts with
  | nil => cases hs
  | cons s₀ ss ih =>
    unfold allWithin at h
    have hsub := dropBefore_sublist s₀ ts
    cases hrest : dropBefore s₀ ts with
    | nil =>
      rw [hrest] at h
      cases h
    | cons t rest =>
      rw [hrest] at h hsub
      simp only [Bool.and_eq_true, Nat.ble_eq] at h
      obtain ⟨⟨hfirst, hlast⟩, hmore⟩ := h
      rcases List.mem_cons.mp hs with rfl | hs
      · refine List.any_eq_true.mpr ⟨t, hsub.subset List.mem_cons_self, has_iff.mpr ?_⟩
        omega
      · obtain ⟨u, hu, hun⟩ := List.any_eq_true.mp (ih hmore hs)
        exact List.any_eq_true.mpr ⟨u, hsub.subset hu, hun⟩

end Span

namespace Run

def span (r : Run) : Span := ⟨r.first, r.last⟩

def pieces (r : Run) : List Span :=
  if r.step = 1 then [r.span]
  else (List.range ((r.last - r.first) / r.step + 1)).map fun k =>
    ⟨r.first + r.step * k, r.first + r.step * k⟩

theorem exists_piece {r : Run} {n : Nat} (h : r.moves n = true) :
    ∃ s ∈ r.pieces, s.has n = true := by
  rw [moves_iff] at h
  obtain ⟨hfirst, hlast, hstep⟩ := h
  unfold pieces
  split
  · exact ⟨r.span, List.mem_singleton_self _, Span.has_iff.mpr ⟨hfirst, hlast⟩⟩
  · have hn : r.first + r.step * ((n - r.first) / r.step) = n := by
      have hmul := Nat.mul_div_cancel' (Nat.dvd_of_mod_eq_zero hstep)
      omega
    refine ⟨_, List.mem_map_of_mem (List.mem_range.mpr (Nat.lt_succ_of_le ?_)),
      Span.has_iff.mpr ⟨hn.le, hn.ge⟩⟩
    exact Nat.div_le_div_right (by omega)

/-- Whether all that `r` moves is moved back by `q`. -/
def undoes (q r : Run) : Bool :=
  let lo := (r.first + r.shift).toNat
  let hi := (r.last + r.shift).toNat
  Nat.ble hi q.last && Nat.ble q.first lo && decide (0 ≤ r.first + r.shift) && q.shift == -r.shift &&
    (q.step == 1 ||
      q.step == 2 && (lo + q.first) % 2 == 0 && (r.step == 2 || r.first == r.last))

theorem moves_of_undoes {q r : Run} (h : q.undoes r = true) {n : Nat} (hn : r.moves n = true) :
    q.moves (n + r.shift).toNat = true ∧ ((n + r.shift).toNat + q.shift).toNat = n := by
  rw [moves_iff] at hn
  obtain ⟨hfirst, hlast, hstep⟩ := hn
  simp only [undoes, Bool.and_eq_true, Bool.or_eq_true, Nat.ble_eq, decide_eq_true_eq,
    beq_iff_eq] at h
  obtain ⟨⟨⟨⟨hhi, hlo⟩, hpos⟩, hshift⟩, hsteps⟩ := h
  rw [moves_iff]
  refine ⟨⟨by omega, by omega, ?_⟩, by omega⟩
  rcases hsteps with hq | ⟨⟨hq, heven⟩, hr⟩
  · rw [hq]
    exact Nat.mod_one _
  · rw [hq]
    rcases hr with hr | hr
    · rw [hr] at hstep
      omega
    · omega

/-- A table in the form of a search tree: at a node its runs part into those that begin before the
pivot and the others. -/
inductive Tree where
  | leaf (rs : List Run)
  | node (pivot : Nat) (left right : Tree)

namespace Tree

/-- The tree of a table, of the given depth or as far as there are runs. -/
def ofRuns : Nat → List Run → Tree
  | 0, rs => leaf rs
  | depth + 1, rs =>
    match rs.drop (rs.length / 2) with
    | [] => leaf rs
    | r :: more => node r.first (ofRuns depth (rs.take (rs.length / 2))) (ofRuns depth (r :: more))

def runsAt : Tree → Nat → List Run
  | leaf rs, _ => rs
  | node pivot left right, n => bif Nat.blt n pivot then left.runsAt n else right.runsAt n

end Tree

theorem image_append_left {as bs : List Run} {n : Nat} (h : ∀ r ∈ bs, r.moves n = false) :
    image (as ++ bs) n = image as n := by
  induction as with
  | nil => exact image_eq_self h
  | cons r as ih => rw [List.cons_append, image, image, ih]

theorem image_append_right {as bs : List Run} {n : Nat} (h : ∀ r ∈ as, r.moves n = false) :
    image (as ++ bs) n = image bs n := by
  induction as with
  | nil => rfl
  | cons r as ih =>
    obtain ⟨hr, has⟩ := List.forall_mem_cons.mp h
    rw [List.cons_append, image, hr, if_neg Bool.false_ne_true, ih has]

structure Table where
  runs : List Run
  ordered : (runs.map span).Pairwise Span.Precedes

namespace Table

def tree (t : Table) : Tree := .ofRuns 7 t.runs

/-- The search finds nothing but runs of the table. -/
theorem mem_of_mem_runsAt {t : Table} {n : Nat} {r : Run} (h : r ∈ t.tree.runsAt n) :
    r ∈ t.runs := by
  suffices hall : ∀ depth rs, r ∈ (Tree.ofRuns depth rs).runsAt n → r ∈ rs from hall 7 t.runs h
  intro depth
  induction depth with
  | zero => exact fun rs h => h
  | succ depth ih =>
    intro rs h
    unfold Tree.ofRuns at h
    cases hdrop : rs.drop (rs.length / 2) with
    | nil =>
      rw [hdrop] at h
      exact h
    | cons q more =>
      rw [hdrop] at h
      simp only [Tree.runsAt] at h
      cases hside : Nat.blt n q.first with
      | true =>
        rw [hside] at h
        exact List.mem_of_mem_take (ih _ h)
      | false =>
        rw [hside] at h
        have hmem : r ∈ rs.drop (rs.length / 2) := hdrop ▸ ih _ h
        exact List.mem_of_mem_drop hmem

/-- The search leaves out no run that moves the code point. -/
theorem image_runsAt (t : Table) (n : Nat) : image (t.tree.runsAt n) n = image t.runs n := by
  suffices hall : ∀ depth rs, (rs.map span).Pairwise Span.Precedes →
      image ((Tree.ofRuns depth rs).runsAt n) n = image rs n from hall 7 t.runs t.ordered
  intro depth
  induction depth with
  | zero => exact fun rs _ => rfl
  | succ depth ih =>
    intro rs hrs
    unfold Tree.ofRuns
    cases hdrop : rs.drop (rs.length / 2) with
    | nil => rfl
    | cons q more =>
      have hsplit : rs = rs.take (rs.length / 2) ++ q :: more := by
        rw [← hdrop, List.take_append_drop]
      generalize rs.take (rs.length / 2) = front at hsplit ⊢
      rw [hsplit, List.map_append, List.pairwise_append] at hrs
      obtain ⟨hfront, hback, hbetween⟩ := hrs
      simp only [Tree.runsAt]
      rw [hsplit]
      cases hside : Nat.blt n q.first with
      | true =>
        have hbefore : n < q.first := Nat.blt_eq.mp hside
        refine (ih front hfront).trans (image_append_left fun r hr => ?_).symm
        rw [Bool.eq_false_iff, ne_eq, moves_iff]
        rintro ⟨hfirst, -⟩
        rcases List.mem_cons.mp hr with rfl | hr
        · omega
        · obtain ⟨hle, hlt⟩ := (List.pairwise_cons.mp hback).1 r.span (List.mem_map_of_mem hr)
          simp only [span] at hle hlt
          omega
      | false =>
        have hbehind : ¬ n < q.first := fun hlt => by
          rw [Nat.blt_eq.mpr hlt] at hside
          cases hside
        refine (ih (q :: more) hback).trans (image_append_right fun r hr => ?_).symm
        rw [Bool.eq_false_iff, ne_eq, moves_iff]
        rintro ⟨-, hlast, -⟩
        obtain ⟨-, hlt⟩ := hbetween r.span (List.mem_map_of_mem hr) q.span List.mem_cons_self
        simp only [span] at hlt
        omega

theorem image_of_moves {t : Table} {r : Run} (hr : r ∈ t.runs) {n : Nat} (hn : r.moves n = true) :
    image t.runs n = (n + r.shift).toNat := by
  obtain ⟨rs, hrs⟩ := t
  dsimp only at hr ⊢
  induction rs with
  | nil => cases hr
  | cons q rs ih =>
    obtain ⟨hq, hrs⟩ := List.pairwise_cons.mp hrs
    rcases List.mem_cons.mp hr with rfl | hr
    · rw [image, if_pos hn]
    · have hlater : q.last < r.first := (hq r.span (List.mem_map_of_mem hr)).2
      have hnot : ¬ q.moves n = true := by
        rw [moves_iff] at hn ⊢
        omega
      rw [image, if_neg hnot, ih hrs hr]

end Table

end Run

end Candidacy.Text
