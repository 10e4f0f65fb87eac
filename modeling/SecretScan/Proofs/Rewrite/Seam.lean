import SecretScan.Proofs.Env.Names
import SecretScan.Proofs.Rewrite.Splice
import SecretScan.Proofs.Scan.Spots

/-!
# The seams that rewriting leaves

Where a literal gave way the text has a seam: the reference, or the reference between the
quotes of the literal. It may be that no match of a pattern reaches into a seam or across
it, whatever stands on its two sides. Such a pattern is sealed off (`Sealed`), and what it
matches in the new text it matched in the old one, outside of the bodies of the literals
(`textSpots_replaces`).
-/

namespace SecretScan

namespace Rewrite

open Pattern

namespace Replaced

/-- What takes the place of the quotes and what is between them. -/
def seam (file : FilePath) (r : Replaced) : List Char :=
  let ref := reference r.variableName file
  if ref.replacesQuotes then ref.text.toList else r.quote :: (ref.text.toList ++ [r.quote])

theorem successor_eq (file : FilePath) (r : Replaced) :
    r.successor file = r.kept ++ r.seam file := by
  simp only [successor, seam]
  split <;> rfl

end Replaced

/-- A place that does not meet the body of any literal. -/
def Outside (rs : List Replaced) (a len : Nat) : Prop :=
  ∀ r ∈ rs, a + len ≤ r.start + r.kept.length + 1 ∨ r.stop ≤ a + 1

/-- No match of a pattern meets a stretch of text, whatever stands around it. -/
def Sealed (p : Pattern) (y : List Char) : Prop :=
  ∀ x z pos, textSpots p pos (x ++ (y ++ z)) =
    textSpots p pos x ++ textSpots p (pos + x.length + y.length) z

section Sealed

variable {edges : Bool} {bad : List Char} {p : Pattern}

/-- A stretch is sealed off that begins with a shunned character, if no match starts behind
it. -/
theorem sealed_of_barren (hp : p.shuns false bad = true) (heats : p.eats = true) {h : Char}
    {y : List Char} (hh : h ∈ bad) (hy : Barren p y) (hbreak : '\n' ∉ y) : Sealed p (h :: y) := by
  intro x z pos
  rw [List.cons_append, textSpots_cut hp heats (Or.inr ⟨hh, by simp⟩),
    textSpots_barren hp heats hy hbreak, List.length_cons,
    show pos + x.length + 1 + y.length = pos + x.length + (y.length + 1) by omega]

/-- A stretch between shunned characters is sealed off, if nothing in it is matched. -/
theorem sealed_of_needs (hp : p.shuns edges bad = true) (heats : p.eats = true)
    {alphabet : List Char} (hneeds : p.needs alphabet = true) {b : Char} (hb : b ∈ bad)
    (hword : edges = true → Text.isWord b = false) {y : List Char} (hy : ∀ c ∈ y, c ∈ alphabet) :
    Sealed p (b :: (y ++ [b])) := by
  intro x z pos
  rw [List.cons_append, List.append_assoc, List.singleton_append,
    textSpots_cut hp heats (Or.inr ⟨hb, hword⟩), textSpots_cut hp heats (Or.inr ⟨hb, hword⟩),
    textSpots_needs hneeds hy, List.nil_append, List.length_cons, List.length_append,
    List.length_singleton,
    show pos + x.length + 1 + y.length + 1 = pos + x.length + (y.length + 1 + 1) by omega]

theorem Replaces.le_start {file : FilePath} {pos : Nat} {rs : List Replaced} {s t : List Char}
    (h : Replaces file pos rs s t) : ∀ r ∈ rs, pos ≤ r.start := by
  induction h with
  | rest pos s => simp
  | @next pos r rs s t gap hstart _ ih =>
      intro x hx
      rcases List.mem_cons.1 hx with rfl | hx
      · omega
      · have hle := ih x hx
        have hlt := r.start_lt_stop
        omega

/-- What a pattern that is sealed off matches in the new text, it matched in the old one,
and outside of the bodies of the literals. -/
theorem textSpots_replaces (hp : p.shuns edges bad = true) (heats : p.eats = true)
    {file : FilePath} {pos : Nat} {rs : List Replaced} {s t : List Char}
    (h : Replaces file pos rs s t)
    (hseal : ∀ r ∈ rs, (r.quote ∈ bad ∧ (edges = true → Text.isWord r.quote = false)) ∧
      Sealed p (r.seam file)) {a' : Nat} {w : List Char} :
    ∀ {pos' : Nat}, (a', w) ∈ textSpots p pos' t →
      ∃ a, (a, w) ∈ textSpots p pos s ∧ Outside rs a w.length := by
  induction h with
  | rest pos s =>
      intro pos' hw
      obtain ⟨a, ha⟩ := textSpots_anywhere hw pos
      exact ⟨a, ha, by simp [Outside]⟩
  | @next pos r rs s t gap hstart hrest ih =>
      intro pos' hw
      obtain ⟨hquote, hsealed⟩ := hseal r List.mem_cons_self
      have hs : gap ++ (r.literal ++ s) = (gap ++ r.kept) ++ r.quote :: (r.body ++ r.quote :: s) := by
        simp [Replaced.literal]
      have hstop : pos + (gap ++ r.kept).length + 1 + r.body.length + 1 = r.stop := by
        simp only [Replaced.stop, Replaced.literal, List.length_append, List.length_cons,
          List.length_nil]
        omega
      rw [Replaced.successor_eq, List.append_assoc, ← List.append_assoc, hsealed] at hw
      rw [hs, textSpots_cut hp heats (Or.inr hquote), textSpots_cut hp heats (Or.inr hquote), hstop]
      rcases List.mem_append.1 hw with hw | hw
      · obtain ⟨a, ha⟩ := textSpots_anywhere hw pos
        refine ⟨a, List.mem_append_left _ ha, ?_⟩
        obtain ⟨u, v, huv, rfl, -⟩ := textSpots_occurs ha
        have hlen := congrArg List.length huv
        simp only [List.length_append] at hlen
        have hlt := r.start_lt_stop
        intro x hx
        rcases List.mem_cons.1 hx with rfl | hx
        · left; omega
        · have := hrest.le_start x hx
          simp only [Replaced.stop, Replaced.literal, List.length_append, List.length_cons] at this
          left; omega
      · obtain ⟨a, ha, hout⟩ := ih (fun x hx => hseal x (List.mem_cons_of_mem r hx)) hw
        refine ⟨a, List.mem_append_right _ (List.mem_append_right _ ha), ?_⟩
        obtain ⟨u, v, -, rfl, -⟩ := textSpots_occurs ha
        intro x hx
        rcases List.mem_cons.1 hx with rfl | hx
        · right; omega
        · exact hout x hx

end Sealed

end Rewrite

end SecretScan
