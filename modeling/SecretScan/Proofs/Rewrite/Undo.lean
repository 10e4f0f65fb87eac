import SecretScan.Proofs.Remediation.Variables
import SecretScan.Proofs.Rewrite.Soundness

/-!
# A variable holds what its literal held

The value of a variable is the value of the finding that owns the literal, and the body of
the literal is that value; only the literal of a mail address may have a scheme in front of
it, which no variable holds. So a rewritten text tells what the text was before: `undo`
walks over it and puts other texts in the places of the references, and with the values of
their variables, each behind the scheme of its literal, the old text comes back.
-/

namespace SecretScan

/-- The value of the variable with a name. -/
def Env.Mapping.value? (m : Env.Mapping) (name : String) : Option String :=
  (m.entries.find? (·.name = name)).map (·.value)

theorem Env.Mapping.value?_eq {m : Env.Mapping} {e : Env.Entry} (he : e ∈ m.entries)
    (honly : ∀ e' ∈ m.entries, e'.name = e.name → e' = e) : m.value? e.name = some e.value := by
  have honly' : ∀ e' ∈ m.entries, decide (e'.name = e.name) = true → e' = e := fun e' he' h =>
    honly e' he' (of_decide_eq_true h)
  rw [Env.Mapping.value?, find?_eq_of_unique he (decide_eq_true rfl) honly']
  rfl

namespace Rewrite

/-- Puts other texts in the places of the references in a rewritten text, which is read from
a position of the old text on. -/
def undo (file : FilePath) (back : Replaced → List Char) :
    Nat → List Replaced → List Char → List Char
  | _, [], t => t
  | pos, r :: rs, t =>
    t.take (r.start - pos) ++ (back r ++
      undo file back r.stop rs (t.drop (r.start - pos + (r.successor file).length)))

namespace Replaced

/-- What a literal has in front of its secret. -/
def scheme (r : Replaced) : List Char :=
  r.body.take (r.body.length - r.finding.value.toList.length)

/-- A literal whose body is some text and the value of its variable. -/
def holding (mapping : Env.Mapping) (front : List Char) (r : Replaced) : List Char :=
  r.kept ++ r.quote :: (front ++ ((mapping.value? r.variableName).getD "").toList ++ [r.quote])

end Replaced

theorem undo_replaces {file : FilePath} {back : Replaced → List Char} {pos : Nat}
    {rs : List Replaced} {s t : List Char} (h : Replaces file pos rs s t)
    (hback : ∀ r ∈ rs, back r = r.literal) : undo file back pos rs t = s := by
  induction h with
  | rest pos s => rfl
  | @next pos r rs s t gap hstart hrest ih =>
      have hgap : r.start - pos = gap.length := by omega
      rw [undo, hgap, List.take_left, ← List.drop_drop, List.drop_left, List.drop_left,
        hback r List.mem_cons_self, ih fun r' hr' => hback r' (List.mem_cons_of_mem r hr')]

theorem Holds.body_eq {r : Replaced} (h : Holds r) :
    r.body = r.scheme ++ r.finding.value.toList ∧
      (r.scheme = [] ∨ (r.finding.rule = emailRule ∧ ∃ x, r.scheme = x ++ [':'])) := by
  rcases h with h | ⟨hrule, x, h⟩
  · have hscheme : r.scheme = [] := by
      rw [Replaced.scheme, h, Nat.sub_self, List.take_zero]
    exact ⟨by rw [hscheme, h, List.nil_append], Or.inl hscheme⟩
  · have hbody : r.body = (x ++ [':']) ++ r.finding.value.toList := by rw [← h]; simp
    have hscheme : r.scheme = x ++ [':'] := by
      rw [Replaced.scheme, hbody, List.length_append, Nat.add_sub_cancel, List.take_left]
    exact ⟨by rw [hscheme, hbody], Or.inr ⟨hrule, x, hscheme⟩⟩

end Rewrite

end SecretScan
