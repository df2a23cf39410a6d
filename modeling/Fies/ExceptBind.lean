import Mathlib.Logic.Basic

/-!
# Running `Except` computations

The model writes fallible C code in `Except`.  Its proofs run a computation
forward (a successful first step feeds the rest) and take a successful run
apart (a bind that succeeds had a successful first step), with the
evaluation of `pure` and of a failed step.

`Post x P` says that every successful result of `x` satisfies `P`; a failure
is a crash of the program and satisfies every postcondition.  Its rules follow
the shape of a computation: `pure`, `bind`, `map` and a fold with an
invariant.
-/

namespace Except

variable {ε α β : Type}

@[simp] theorem pure_eq_ok (a : α) : (pure a : Except ε α) = .ok a := rfl

@[simp] theorem ok_bind (a : α) (f : α → Except ε β) : ((.ok a : Except ε α) >>= f) = f a :=
  rfl

@[simp] theorem error_bind (e : ε) (f : α → Except ε β) :
    ((.error e : Except ε α) >>= f) = .error e :=
  rfl

theorem bind_eq_ok_iff {x : Except ε α} {f : α → Except ε β} {b : β} :
    x >>= f = .ok b ↔ ∃ a, x = .ok a ∧ f a = .ok b := by
  cases x with
  | error e => simp
  | ok a => simp

theorem eq_ok_of_toOption_isSome {x : Except ε α} (h : x.toOption.isSome = true) :
    x = .ok (x.toOption.get h) := by
  cases x with
  | error e => simp [Except.toOption] at h
  | ok a => rfl

/-! ## Postconditions -/

/-- Every successful result of `x` satisfies `P`. -/
def Post (x : Except ε α) (P : α → Prop) : Prop := ∀ a, x = .ok a → P a

theorem post_pure {P : α → Prop} {a : α} (h : P a) : Post (pure a : Except ε α) P := by
  intro b hb
  cases hb
  exact h

theorem post_error (e : ε) (P : α → Prop) : Post (.error e : Except ε α) P := by
  intro b hb
  cases hb

theorem post_bind {x : Except ε α} {f : α → Except ε β} {Q : α → Prop} {P : β → Prop}
    (hx : Post x Q) (hf : ∀ a, Q a → Post (f a) P) : Post (x >>= f) P := by
  intro b hb
  obtain ⟨a, ha, hfa⟩ := bind_eq_ok_iff.mp hb
  exact hf a (hx a ha) b hfa

theorem post_pure_iff {a : α} {P : α → Prop} : Post (pure a : Except ε α) P ↔ P a :=
  ⟨fun h => h a rfl, post_pure⟩

theorem post_bind_iff {x : Except ε α} {f : α → Except ε β} {P : β → Prop} :
    Post (x >>= f) P ↔ Post x fun a => Post (f a) P := by
  constructor
  · intro h a ha b hb
    exact h b (by rw [ha]; exact hb)
  · intro h
    exact post_bind h fun a ha => ha

theorem post_map {x : Except ε α} {f : α → β} {P : β → Prop} (hx : Post x fun a => P (f a)) :
    Post (f <$> x) P := by
  intro b hb
  cases x with
  | error e => cases hb
  | ok a =>
      cases hb
      exact hx a rfl

theorem Post.mono {x : Except ε α} {P Q : α → Prop} (h : Post x P) (hPQ : ∀ a, P a → Q a) :
    Post x Q :=
  fun a ha => hPQ a (h a ha)

theorem post_foldlM {γ : Type} (I : β → Prop) (f : β → γ → Except ε β) (xs : List γ)
    {init : β} (h0 : I init) (hf : ∀ b x, I b → Post (f b x) I) : Post (xs.foldlM f init) I := by
  induction xs generalizing init with
  | nil => exact post_pure h0
  | cons x xs ih =>
      rw [List.foldlM_cons]
      exact post_bind (hf init x h0) fun b hb => ih hb

/-! ## Runs that succeed -/

theorem foldlM_eq_ok_of_step {γ : Type} {f : β → γ → Except ε β} {spec : List γ → β}
    {P : γ → Prop} (hstep : ∀ xs x, P x → f (spec xs) x = .ok (spec (xs ++ [x])))
    (xs : List γ) {ns : List γ} (hns : ∀ x ∈ ns, P x) :
    ns.foldlM f (spec xs) = .ok (spec (xs ++ ns)) := by
  induction ns generalizing xs with
  | nil => simp
  | cons x ns ih =>
      rw [List.foldlM_cons, hstep xs x (hns x List.mem_cons_self), ok_bind,
        ih (xs ++ [x]) fun y hy => hns y (List.mem_cons_of_mem x hy)]
      simp

theorem foldlM_view {γ τ : Type} {f : β → γ → Except ε β} {I : β → Prop} {p : β → τ}
    {g : τ → γ → τ} {xs : List γ}
    (hstep : ∀ x ∈ xs, ∀ b, I b → ∃ b', f b x = .ok b' ∧ I b' ∧ p b' = g (p b) x) :
    ∀ {init : β}, I init →
      ∃ b', xs.foldlM f init = .ok b' ∧ p b' = xs.foldl g (p init) ∧ I b' := by
  induction xs with
  | nil =>
      intro init hinit
      exact ⟨init, rfl, rfl, hinit⟩
  | cons x xs ih =>
      intro init hinit
      obtain ⟨b, hb, hIb, hview⟩ := hstep x List.mem_cons_self init hinit
      obtain ⟨b', hrest, hview', hIb'⟩ := ih (fun y hy => hstep y (List.mem_cons_of_mem x hy)) hIb
      refine ⟨b', ?_, ?_, hIb'⟩
      · rw [List.foldlM_cons, hb, ok_bind, hrest]
      · rw [hview', hview, List.foldl_cons]

theorem mapM_eq_ok_map {γ : Type} {f : γ → Except ε α} {g : γ → α} {xs : List γ}
    (h : ∀ x ∈ xs, f x = .ok (g x)) : xs.mapM f = .ok (xs.map g) := by
  induction xs with
  | nil => rfl
  | cons x xs ih =>
      rw [List.mapM_cons, h x List.mem_cons_self, ok_bind,
        ih fun y hy => h y (List.mem_cons_of_mem x hy)]
      rfl

theorem mapM_cons_eq_ok_iff {γ : Type} {f : γ → Except ε α} {x : γ} {xs : List γ}
    {ys : List α} :
    (x :: xs).mapM f = .ok ys ↔ ∃ y ys', f x = .ok y ∧ xs.mapM f = .ok ys' ∧ ys = y :: ys' := by
  rw [List.mapM_cons]
  constructor
  · intro h
    obtain ⟨y, hy, hrest⟩ := bind_eq_ok_iff.mp h
    obtain ⟨ys', hys', hpure⟩ := bind_eq_ok_iff.mp hrest
    cases hpure
    exact ⟨y, ys', hy, hys', rfl⟩
  · rintro ⟨y, ys', hy, hys', rfl⟩
    rw [hy, ok_bind, hys', ok_bind]
    rfl

end Except
