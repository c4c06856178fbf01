import Mathlib.Logic.Function.Basic

/-! Method bodies over a shared mutable state. A body that throws keeps every
effect it had before the throw, as in a language without transactions. -/
namespace Imperative

/-- A method body: the value it returns or the exception it throws, and in
either case the state it leaves behind. -/
def Method (ε σ α : Type) : Type := σ → Except ε α × σ

namespace Method
variable {ε σ τ α β : Type}

instance : Monad (Method ε σ) where
  pure a := fun s => (.ok a, s)
  bind m next := fun s =>
    match m s with
    | (.ok a, s') => next a s'
    | (.error e, s') => (.error e, s')

instance : MonadExceptOf ε (Method ε σ) where
  throw e := fun s => (.error e, s)
  tryCatch m handler := fun s =>
    match m s with
    | (.ok a, s') => (.ok a, s')
    | (.error e, s') => handler e s'

instance : MonadStateOf σ (Method ε σ) where
  get := fun s => (.ok s, s)
  set s := fun _ => (.ok (), s)
  modifyGet f := fun s => (.ok (f s).1, (f s).2)

/-- Run a body on one component of a larger state. -/
def zoom (view : τ → σ) (put : σ → τ → τ) (m : Method ε σ α) : Method ε τ α :=
  fun t => ((m (view t)).1, put (m (view t)).2 t)

@[simp] theorem pure_apply (a : α) (s : σ) :
    (pure a : Method ε σ α) s = (.ok a, s) := rfl

@[simp] theorem bind_apply (m : Method ε σ α) (next : α → Method ε σ β) (s : σ) :
    (m >>= next) s = match m s with
      | (.ok a, s') => next a s'
      | (.error e, s') => (.error e, s') := rfl

@[simp] theorem throw_apply (e : ε) (s : σ) :
    (throw e : Method ε σ α) s = (.error e, s) := rfl

@[simp] theorem tryCatch_apply (m : Method ε σ α) (handler : ε → Method ε σ α) (s : σ) :
    (tryCatch m handler : Method ε σ α) s = match m s with
      | (.ok a, s') => (.ok a, s')
      | (.error e, s') => handler e s' := rfl

@[simp] theorem get_apply (s : σ) : (get : Method ε σ σ) s = (.ok s, s) := rfl

@[simp] theorem modify_apply (f : σ → σ) (s : σ) :
    (modify f : Method ε σ Unit) s = (.ok (), f s) := rfl

/-- A body without a value has nothing but its return to show, so a run can be evaluated. -/
theorem eq_ok_of_isOk {result : Except ε Unit} (h : result.isOk = true) : result = .ok () := by
  cases result with
  | error e => cases h
  | ok done => rfl

@[simp] theorem ite_apply (p : Prop) [Decidable p] (m m' : Method ε σ α) (s : σ) :
    (if p then m else m') s = if p then m s else m' s := by
  split <;> rfl

@[simp] theorem zoom_apply (view : τ → σ) (put : σ → τ → τ) (m : Method ε σ α) (t : τ) :
    m.zoom view put t = ((m (view t)).1, put (m (view t)).2 t) := rfl

theorem bind_assoc {γ : Type} (m : Method ε σ α) (next : α → Method ε σ β)
    (last : β → Method ε σ γ) : m >>= next >>= last = m >>= fun a => next a >>= last := by
  funext s
  simp only [bind_apply]
  rcases m s with ⟨e | a, t⟩ <;> rfl

/-- A sequence returns just where both of its parts do. -/
theorem bind_eq_ok_iff {m : Method ε σ α} {next : α → Method ε σ β} {b : β} {s t : σ} :
    (m >>= next) s = (.ok b, t) ↔ ∃ a u, m s = (.ok a, u) ∧ next a u = (.ok b, t) := by
  rw [bind_apply]
  rcases m s with ⟨e | a, u⟩
  · simp
  · constructor
    · exact fun h => ⟨a, u, rfl, h⟩
    · rintro ⟨_, _, hFirst, h⟩
      cases hFirst
      exact h

/-- And it throws where one of them does, the second only once the first has returned. -/
theorem bind_eq_error_iff {m : Method ε σ α} {next : α → Method ε σ β} {e : ε} {s t : σ} :
    (m >>= next) s = (.error e, t) ↔
      m s = (.error e, t) ∨ ∃ a u, m s = (.ok a, u) ∧ next a u = (.error e, t) := by
  rw [bind_apply]
  rcases m s with ⟨e' | a, u⟩
  · simp
  · constructor
    · exact fun h => Or.inr ⟨a, u, rfl, h⟩
    · rintro (hFirst | ⟨_, _, hFirst, h⟩)
      · cases hFirst
      · cases hFirst
        exact h

theorem pure_eq_ok_iff {a b : α} {s t : σ} :
    (pure a : Method ε σ α) s = (.ok b, t) ↔ t = s ∧ a = b := by
  simp [eq_comm, and_comm]

/-- Total pre- and postcondition: from a state satisfying `P` the body ends,
with `Q` at its return value or `E` at the exception it throws. -/
def Ensures (P : σ → Prop) (m : Method ε σ α) (Q : α → σ → Prop) (E : ε → σ → Prop) : Prop :=
  ∀ s, P s → match m s with
    | (.ok a, s') => Q a s'
    | (.error e, s') => E e s'

theorem ensures_iff {P : σ → Prop} {m : Method ε σ α} {Q : α → σ → Prop} {E : ε → σ → Prop} :
    Ensures P m Q E ↔ ∀ s, P s → (∀ a s', m s = (.ok a, s') → Q a s') ∧
      (∀ e s', m s = (.error e, s') → E e s') := by
  constructor
  · intro h s hs
    have hAt := h s hs
    refine ⟨fun a s' hRun => ?_, fun e s' hRun => ?_⟩
    · rwa [hRun] at hAt
    · rwa [hRun] at hAt
  · intro h s hs
    obtain ⟨hReturn, hThrow⟩ := h s hs
    rcases hRun : m s with ⟨_ | _, s'⟩
    · exact hThrow _ _ hRun
    · exact hReturn _ _ hRun

theorem ensures_throw {P : σ → Prop} {Q : α → σ → Prop} {E : ε → σ → Prop} (e : ε)
    (h : ∀ s, P s → E e s) : Ensures P (throw e : Method ε σ α) Q E := h

theorem ensures_pure {P : σ → Prop} {Q : α → σ → Prop} {E : ε → σ → Prop} (a : α)
    (h : ∀ s, P s → Q a s) : Ensures P (pure a : Method ε σ α) Q E := h

theorem ensures_get {P : σ → Prop} {Q : σ → σ → Prop} {E : ε → σ → Prop}
    (h : ∀ s, P s → Q s s) : Ensures P (get : Method ε σ σ) Q E := h

theorem ensures_modify {P : σ → Prop} {Q : Unit → σ → Prop} {E : ε → σ → Prop} {f : σ → σ}
    (h : ∀ s, P s → Q () (f s)) : Ensures P (modify f : Method ε σ Unit) Q E := h

theorem ensures_ite {P : σ → Prop} {Q : α → σ → Prop} {E : ε → σ → Prop} {p : Prop} [Decidable p]
    {m m' : Method ε σ α} (yes : p → Ensures P m Q E) (no : ¬p → Ensures P m' Q E) :
    Ensures P (if p then m else m') Q E := by
  split
  · exact yes ‹p›
  · exact no ‹¬p›

/-- A body that works on a component, by what it does to that component. -/
theorem ensures_zoom {view : τ → σ} {put : σ → τ → τ} {P : τ → Prop} {Q : α → τ → Prop}
    {E : ε → τ → Prop} {P' : σ → Prop} {Q' : α → σ → Prop} {E' : ε → σ → Prop}
    {m : Method ε σ α} (h : Ensures P' m Q' E') (hPre : ∀ t, P t → P' (view t))
    (hPost : ∀ t s a, P t → Q' a s → Q a (put s t))
    (hThrow : ∀ t s e, P t → E' e s → E e (put s t)) : Ensures P (m.zoom view put) Q E := by
  intro t ht
  have hInner := h (view t) (hPre t ht)
  rw [zoom_apply]
  rcases hRun : m (view t) with ⟨e | a, s⟩ <;> rw [hRun] at hInner
  · exact hThrow t s e ht hInner
  · exact hPost t s a ht hInner

/-- Sequencing. An exception of the first body skips the second. -/
theorem ensures_bind {P : σ → Prop} {R : α → σ → Prop} {Q : β → σ → Prop} {E : ε → σ → Prop}
    {m : Method ε σ α} {next : α → Method ε σ β}
    (first : Ensures P m R E) (second : ∀ a, Ensures (R a) (next a) Q E) :
    Ensures P (m >>= next) Q E := by
  intro s hs
  have hFirst := first s hs
  rw [bind_apply]
  rcases hRun : m s with ⟨_ | a, s'⟩
  · simpa [hRun] using hFirst
  · rw [hRun] at hFirst
    exact second a s' hFirst

/-- The handler starts from whatever state the protected body left. -/
theorem ensures_tryCatch {P : σ → Prop} {F : ε → σ → Prop} {Q : α → σ → Prop}
    {E : ε → σ → Prop} {m : Method ε σ α} {handler : ε → Method ε σ α}
    (body : Ensures P m Q F) (handled : ∀ e, Ensures (F e) (handler e) Q E) :
    Ensures P (tryCatch m handler) Q E := by
  intro s hs
  have hBody := body s hs
  rw [tryCatch_apply]
  rcases hRun : m s with ⟨e | a, s'⟩
  · rw [hRun] at hBody
    exact handled e s' hBody
  · simpa [hRun] using hBody

theorem Ensures.weaken {P P' : σ → Prop} {Q Q' : α → σ → Prop} {E E' : ε → σ → Prop}
    {m : Method ε σ α} (h : Ensures P m Q E) (hPre : ∀ s, P' s → P s)
    (hPost : ∀ a s, Q a s → Q' a s) (hThrow : ∀ e s, E e s → E' e s) :
    Ensures P' m Q' E' := by
  rw [ensures_iff] at h ⊢
  intro s hs
  obtain ⟨hq, he⟩ := h s (hPre s hs)
  exact ⟨fun a s' hRun => hPost a s' (hq a s' hRun), fun e s' hRun => hThrow e s' (he e s' hRun)⟩

/-- Keeping an invariant whether the body returns or throws. -/
def Preserves (I : σ → Prop) (m : Method ε σ α) : Prop := ∀ s, I s → I (m s).2

theorem preserves_iff_ensures {I : σ → Prop} {m : Method ε σ α} :
    Preserves I m ↔ Ensures I m (fun _ => I) (fun _ => I) := by
  constructor
  · intro h s hs
    have hAfter := h s hs
    rcases hRun : m s with ⟨_ | _, s'⟩ <;> simpa [hRun] using hAfter
  · intro h s hs
    have hAfter := h s hs
    rcases hRun : m s with ⟨_ | _, s'⟩ <;> simpa [hRun] using hAfter

theorem preserves_pure {I : σ → Prop} (a : α) : Preserves I (pure a : Method ε σ α) :=
  fun _ h => h

theorem preserves_throw {I : σ → Prop} (e : ε) : Preserves I (throw e : Method ε σ α) :=
  fun _ h => h

theorem preserves_modify {I : σ → Prop} {f : σ → σ} (h : ∀ s, I s → I (f s)) :
    Preserves I (modify f : Method ε σ Unit) := h

theorem preserves_bind {I : σ → Prop} {m : Method ε σ α} {next : α → Method ε σ β}
    (first : Preserves I m) (second : ∀ a, Preserves I (next a)) :
    Preserves I (m >>= next) :=
  preserves_iff_ensures.2 (ensures_bind (preserves_iff_ensures.1 first)
    (fun a => preserves_iff_ensures.1 (second a)))

theorem preserves_ite {I : σ → Prop} {p : Prop} [Decidable p] {m m' : Method ε σ α}
    (yes : p → Preserves I m) (no : ¬p → Preserves I m') :
    Preserves I (if p then m else m') := by
  split
  · exact yes ‹p›
  · exact no ‹¬p›

theorem preserves_tryCatch {I : σ → Prop} {m : Method ε σ α} {handler : ε → Method ε σ α}
    (body : Preserves I m) (handled : ∀ e, Preserves I (handler e)) :
    Preserves I (tryCatch m handler) :=
  preserves_iff_ensures.2 (ensures_tryCatch (preserves_iff_ensures.1 body)
    fun e => preserves_iff_ensures.1 (handled e))

/-- Leaving a part of the state as it was, whether the body returns or throws. -/
def Leaves (view : σ → τ) (m : Method ε σ α) : Prop := ∀ s, view (m s).2 = view s

section
variable {view : σ → τ}

/-- What only depends on that part is an invariant. -/
theorem Leaves.preserves {m : Method ε σ α} (h : Leaves view m) (P : τ → Prop) :
    Preserves (fun s => P (view s)) m := by
  intro s hs
  rw [h s]
  exact hs

theorem leaves_pure (a : α) : Leaves view (pure a : Method ε σ α) := fun _ => rfl

theorem leaves_throw (e : ε) : Leaves view (throw e : Method ε σ α) := fun _ => rfl

theorem leaves_get : Leaves view (get : Method ε σ σ) := fun _ => rfl

theorem leaves_modify {f : σ → σ} (h : ∀ s, view (f s) = view s) :
    Leaves view (modify f : Method ε σ Unit) := h

theorem Leaves.bind {m : Method ε σ α} {next : α → Method ε σ β} (first : Leaves view m)
    (second : ∀ a, Leaves view (next a)) : Leaves view (m >>= next) := by
  intro s
  have hFirst := first s
  rw [bind_apply]
  rcases hRun : m s with ⟨e | a, t⟩ <;> rw [hRun] at hFirst
  · exact hFirst
  · exact (second a t).trans hFirst

theorem leaves_ite {p : Prop} [Decidable p] {m m' : Method ε σ α} (yes : Leaves view m)
    (no : Leaves view m') : Leaves view (if p then m else m') := by
  split
  · exact yes
  · exact no

end

end Method
end Imperative
