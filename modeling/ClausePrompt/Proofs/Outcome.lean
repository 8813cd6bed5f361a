import ClausePrompt.Refusal

namespace ClausePrompt.Outcome

variable {ε α β : Type}

theorem map_eq_ok_iff {f : α → β} {x : Except ε α} {b : β} :
    x.map f = .ok b ↔ ∃ a, x = .ok a ∧ f a = b := by
  cases x <;> simp [Except.map]

theorem bind_eq_ok_iff {x : Except ε α} {f : α → Except ε β} {b : β} :
    x >>= f = .ok b ↔ ∃ a, x = .ok a ∧ f a = .ok b := by
  cases x <;> simp [bind, Except.bind]

theorem map_eq_error_iff {f : α → β} {x : Except ε α} {e : ε} :
    x.map f = .error e ↔ x = .error e := by
  cases x <;> simp [Except.map]

theorem bind_eq_error_iff {x : Except ε α} {f : α → Except ε β} {e : ε} :
    x >>= f = .error e ↔ x = .error e ∨ ∃ a, x = .ok a ∧ f a = .error e := by
  cases x <;> simp [bind, Except.bind]

-- Whatever fails, fails with an error of the given kind.
def FailsWith (p : ε → Prop) (outcome : Except ε α) : Prop := ∀ e, outcome = .error e → p e

variable {p : ε → Prop}

@[simp] theorem failsWith_ok (a : α) : FailsWith p (.ok a) := fun _ h => nomatch h

@[simp] theorem failsWith_pure (a : α) : FailsWith p (pure a : Except ε α) := failsWith_ok a

@[simp] theorem failsWith_error {e : ε} : FailsWith p (.error e : Except ε α) ↔ p e := by
  simp [FailsWith]

theorem FailsWith.imp {q : ε → Prop} {outcome : Except ε α} (h : FailsWith p outcome)
    (hpq : ∀ e, p e → q e) : FailsWith q outcome :=
  fun e herror => hpq e (h e herror)

theorem FailsWith.ite {c : Prop} [Decidable c] {first second : Except ε α}
    (hfirst : FailsWith p first) (hsecond : FailsWith p second) :
    FailsWith p (if c then first else second) := by
  split
  · exact hfirst
  · exact hsecond

theorem FailsWith.map {outcome : Except ε α} (h : FailsWith p outcome) (f : α → β) :
    FailsWith p (outcome.map f) :=
  fun e herror => h e (map_eq_error_iff.mp herror)

theorem FailsWith.bind {outcome : Except ε α} {f : α → Except ε β} (h : FailsWith p outcome)
    (hf : ∀ a, outcome = .ok a → FailsWith p (f a)) : FailsWith p (outcome >>= f) := by
  intro e herror
  obtain hfirst | ⟨a, hok, hnext⟩ := bind_eq_error_iff.mp herror
  · exact h e hfirst
  · exact hf a hok e hnext

theorem failsWith_foldlM {f : β → α → Except ε β} (hf : ∀ b a, FailsWith p (f b a))
    (xs : List α) (b : β) : FailsWith p (xs.foldlM f b) := by
  induction xs generalizing b with
  | nil => exact failsWith_pure b
  | cons x xs ih =>
    rw [List.foldlM_cons]
    exact (hf b x).bind fun next _ => ih next

theorem failsWith_mapM {f : α → Except ε β} {xs : List α} (hf : ∀ x ∈ xs, FailsWith p (f x)) :
    FailsWith p (xs.mapM f) := by
  induction xs with
  | nil => exact failsWith_pure []
  | cons x xs ih =>
    obtain ⟨hx, hxs⟩ := List.forall_mem_cons.mp hf
    rw [List.mapM_cons]
    exact hx.bind fun first _ => (ih hxs).bind fun rest _ => failsWith_pure (first :: rest)

-- A loop fails at the first step that does.
theorem foldlM_eq_error_iff {f : β → α → Except ε β} {xs : List α} {b : β} {e : ε} :
    xs.foldlM f b = .error e ↔
      ∃ front x rest last, xs = front ++ x :: rest ∧ front.foldlM f b = .ok last ∧
        f last x = .error e := by
  induction xs generalizing b with
  | nil =>
    constructor
    · rintro ⟨⟩
    · rintro ⟨front, x, rest, -, hcut, -⟩
      simp at hcut
  | cons x xs ih =>
    rw [List.foldlM_cons, bind_eq_error_iff]
    constructor
    · rintro (hfirst | ⟨next, hnext, hrest⟩)
      · exact ⟨[], x, xs, b, rfl, rfl, hfirst⟩
      · obtain ⟨front, y, rest, last, rfl, hfront, hlast⟩ := ih.mp hrest
        refine ⟨x :: front, y, rest, last, rfl, ?_, hlast⟩
        rw [List.foldlM_cons, hnext]
        exact hfront
    · rintro ⟨front, y, rest, last, hcut, hfront, hlast⟩
      cases front with
      | nil =>
        obtain ⟨rfl, rfl⟩ := List.cons.inj hcut
        obtain rfl := Except.ok.inj hfront
        exact .inl hlast
      | cons z front =>
        obtain ⟨rfl, rfl⟩ := List.cons.inj hcut
        rw [List.foldlM_cons] at hfront
        obtain ⟨next, hnext, hfront⟩ := bind_eq_ok_iff.mp hfront
        exact .inr ⟨next, hnext, ih.mpr ⟨front, y, rest, last, rfl, hfront, hlast⟩⟩

-- A loop that gets through every step gets through.
theorem foldlM_total {f : β → α → Except ε β} {xs : List α}
    (h : ∀ x ∈ xs, ∀ b, ∃ next, f b x = .ok next) (b : β) : ∃ last, xs.foldlM f b = .ok last := by
  induction xs generalizing b with
  | nil => exact ⟨b, rfl⟩
  | cons x xs ih =>
    obtain ⟨hx, hxs⟩ := List.forall_mem_cons.mp h
    obtain ⟨next, hnext⟩ := hx b
    obtain ⟨last, hlast⟩ := ih hxs next
    exact ⟨last, by rw [List.foldlM_cons, hnext]; exact hlast⟩

theorem foldlM_congr {f g : β → α → Except ε β} {xs : List α}
    (h : ∀ x ∈ xs, ∀ b, f b x = g b x) (b : β) : xs.foldlM f b = xs.foldlM g b := by
  induction xs generalizing b with
  | nil => rfl
  | cons x xs ih =>
    obtain ⟨hx, hxs⟩ := List.forall_mem_cons.mp h
    rw [List.foldlM_cons, List.foldlM_cons, hx b]
    exact congrArg (g b x >>= ·) (funext (ih hxs))

end ClausePrompt.Outcome
