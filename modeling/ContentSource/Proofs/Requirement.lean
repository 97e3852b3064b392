/-! # Requirements in order

A requirement is a condition together with the error for what does not meet it. A computation judges
a list of requirements when it succeeds if all of them are met and otherwise fails over the first
one that is not. Computations put together judge the lists put together.
-/
namespace ContentSource

structure Requirement (ε : Type) where
  Holds : Prop
  error : ε

namespace Requirement

variable {ε ε' α β : Type}

def mapError (f : ε → ε') (r : Requirement ε) : Requirement ε' := ⟨r.Holds, f r.error⟩

inductive FirstFailing : List (Requirement ε) → ε → Prop
  | here {r : Requirement ε} {rest : List (Requirement ε)} : ¬ r.Holds →
    FirstFailing (r :: rest) r.error
  | later {r : Requirement ε} {rest : List (Requirement ε)} {e : ε} : r.Holds →
    FirstFailing rest e → FirstFailing (r :: rest) e

namespace FirstFailing

variable {l l' : List (Requirement ε)} {e e' : ε}

theorem unique (h : FirstFailing l e) (h' : FirstFailing l e') : e = e' := by
  induction h with
  | here hr =>
    cases h' with
    | here => rfl
    | later hr' => exact absurd hr' hr
  | later hr _ ih =>
    cases h' with
    | here hr' => exact absurd hr hr'
    | later _ hrest => exact ih hrest

theorem append_right (h : FirstFailing l e) (l' : List (Requirement ε)) :
    FirstFailing (l ++ l') e := by
  induction h with
  | here hr => exact .here hr
  | later hr _ ih => exact .later hr ih

theorem append_left (hl : ∀ r ∈ l, r.Holds) (h : FirstFailing l' e) :
    FirstFailing (l ++ l') e := by
  induction l with
  | nil => exact h
  | cons r rest ih =>
    refine .later (hl r List.mem_cons_self) (ih fun q hq => ?_)
    exact hl q (List.mem_cons_of_mem _ hq)

theorem map (f : ε → ε') (h : FirstFailing l e) : FirstFailing (l.map (mapError f)) (f e) := by
  induction h with
  | here hr => exact .here hr
  | later hr _ ih => exact .later hr ih

end FirstFailing

/-- A computation succeeds if all requirements are met, else it fails over the first that is not. -/
def Judges (l : List (Requirement ε)) : Except ε α → Prop
  | .ok _ => ∀ r ∈ l, r.Holds
  | .error e => FirstFailing l e

namespace Judges

variable {l l' : List (Requirement ε)} {x : Except ε α} {a : α} {e : ε}

theorem nil (a : α) : Judges [] (.ok a : Except ε α) := by simp [Judges]

theorem cons {r : Requirement ε} (hr : r.Holds) (h : Judges l x) : Judges (r :: l) x := by
  cases x with
  | ok => exact fun q hq => (List.mem_cons.mp hq).elim (fun hqr => hqr ▸ hr) (h q)
  | error => exact .later hr h

theorem refused {r : Requirement ε} (hr : ¬ r.Holds) (rest : List (Requirement ε)) :
    Judges (r :: rest) (.error r.error : Except ε α) :=
  .here hr

theorem bind {f : α → Except ε β} (hx : Judges l x) (hf : ∀ a, x = .ok a → Judges l' (f a)) :
    Judges (l ++ l') (x >>= f) := by
  cases x with
  | error e => exact hx.append_right l'
  | ok a =>
    change Judges (l ++ l') (f a)
    have hrest := hf a rfl
    cases hfa : f a with
    | error e =>
      rw [hfa] at hrest
      exact .append_left hx hrest
    | ok b =>
      rw [hfa] at hrest
      exact fun r hr => (List.mem_append.mp hr).elim (hx r) (hrest r)

theorem map (h : Judges l x) (f : α → β) : Judges l (x.map f) := by
  cases x with
  | ok => exact h
  | error => exact h

theorem bind_pure (h : Judges l x) (f : α → β) : Judges l (x >>= fun a => pure (f a)) := by
  cases x with
  | ok => exact h
  | error => exact h

theorem mapError (h : Judges l x) (f : ε → ε') :
    Judges (l.map (Requirement.mapError f)) (x.mapError f) := by
  cases x with
  | ok =>
    intro r hr
    obtain ⟨q, hq, rfl⟩ := List.mem_map.mp hr
    exact h q hq
  | error => exact FirstFailing.map f h

theorem mapM {γ : Type} {need : γ → List (Requirement ε)} {f : γ → Except ε α}
    (h : ∀ c, Judges (need c) (f c)) (cs : List γ) : Judges (cs.flatMap need) (cs.mapM f) := by
  induction cs with
  | nil => exact .nil []
  | cons c cs ih =>
    rw [List.mapM_cons, List.flatMap_cons]
    exact (h c).bind fun a _ => ih.bind_pure _

theorem foldlM {γ : Type} {need : γ → List (Requirement ε)} {f : β → γ → Except ε β}
    (h : ∀ b c, Judges (need c) (f b c)) (cs : List γ) (b : β) :
    Judges (cs.flatMap need) (cs.foldlM f b) := by
  induction cs generalizing b with
  | nil => exact .nil b
  | cons c cs ih =>
    rw [List.foldlM_cons, List.flatMap_cons]
    exact (h b c).bind fun b' _ => ih b'

end Judges

end Requirement

end ContentSource
