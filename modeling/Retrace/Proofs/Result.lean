import Mathlib.Data.List.Forall2

/-!
# Results of steps that may fail

A sequence of steps succeeds exactly when each of them does, and then gives
their values. The lemmas take apart a success from its end.
-/

namespace Retrace.Result

variable {ε ε' α β : Type}

theorem bind_eq_ok {x : Except ε α} {f : α → Except ε β} {b : β} :
    x >>= f = .ok b ↔ ∃ a, x = .ok a ∧ f a = .ok b := by
  cases x with
  | error fault =>
    constructor
    · intro h
      cases h
    · rintro ⟨_, h, -⟩
      cases h
  | ok a =>
    constructor
    · intro h
      exact ⟨a, rfl, h⟩
    · rintro ⟨_, h, hf⟩
      cases h
      exact hf

theorem map_eq_ok {x : Except ε α} {f : α → β} {b : β} :
    f <$> x = .ok b ↔ ∃ a, x = .ok a ∧ f a = b := by
  cases x with
  | error fault =>
    constructor
    · intro h
      cases h
    · rintro ⟨_, h, -⟩
      cases h
  | ok a =>
    constructor
    · intro h
      cases h
      exact ⟨a, rfl, rfl⟩
    · rintro ⟨_, h, rfl⟩
      cases h
      rfl

theorem map_eq_error {x : Except ε α} {f : α → β} {fault : ε} :
    f <$> x = .error fault ↔ x = .error fault := by
  cases x with
  | error fault =>
    constructor
    · intro h
      cases h
      rfl
    · intro h
      cases h
      rfl
  | ok a =>
    constructor
    · intro h
      cases h
    · intro h
      cases h

theorem mapError_eq_ok {x : Except ε α} {f : ε → ε'} {a : α} :
    x.mapError f = .ok a ↔ x = .ok a := by
  cases x with
  | error fault =>
    constructor
    · intro h
      cases h
    · intro h
      cases h
  | ok b =>
    constructor
    · intro h
      cases h
      rfl
    · intro h
      cases h
      rfl

/-- What cannot fail after a step makes no difference to its success. -/
theorem exists_bind_eq_ok {x : Except ε α} {f : α → Except ε β} (h : ∀ a, ∃ b, f a = .ok b) :
    (∃ b, x >>= f = .ok b) ↔ ∃ a, x = .ok a := by
  constructor
  · rintro ⟨b, hb⟩
    obtain ⟨a, ha, -⟩ := bind_eq_ok.mp hb
    exact ⟨a, ha⟩
  · rintro ⟨a, rfl⟩
    exact h a

theorem exists_map_eq_ok {x : Except ε α} {f : α → β} :
    (∃ b, f <$> x = .ok b) ↔ ∃ a, x = .ok a := by
  simp [map_eq_ok]

theorem mapM_congr {f g : α → Except ε β} {l : List α} (h : ∀ a ∈ l, f a = g a) :
    l.mapM f = l.mapM g := by
  induction l with
  | nil => rfl
  | cons a l ih =>
    have hrest : ∀ b ∈ l, f b = g b := by
      intro b hb
      exact h b (by simp [hb])
    rw [List.mapM_cons, List.mapM_cons, h a (by simp), ih hrest]

/-- A list of steps succeeds with the values of its steps, in their order. -/
theorem mapM_eq_ok {f : α → Except ε β} {l : List α} {values : List β} :
    l.mapM f = .ok values ↔ List.Forall₂ (fun a b => f a = .ok b) l values := by
  induction l generalizing values with
  | nil =>
    rw [List.mapM_nil, List.forall₂_nil_left_iff]
    constructor
    · intro h
      cases h
      rfl
    · intro h
      rw [h]
      rfl
  | cons a l ih =>
    rw [List.mapM_cons, bind_eq_ok]
    constructor
    · rintro ⟨b, ha, h⟩
      obtain ⟨bs, hl, h⟩ := bind_eq_ok.mp h
      cases h
      exact .cons ha (ih.mp hl)
    · rintro (_ | ⟨ha, hl⟩)
      exact ⟨_, ha, bind_eq_ok.mpr ⟨_, ih.mpr hl, rfl⟩⟩

/-- Each value is that of a step. -/
theorem exists_of_mapM_eq_ok {f : α → Except ε β} {l : List α} {values : List β}
    (h : l.mapM f = .ok values) {b : β} (hb : b ∈ values) : ∃ a ∈ l, f a = .ok b := by
  induction mapM_eq_ok.mp h with
  | nil => cases hb
  | @cons a c l values ha hl ih =>
    obtain rfl | hb := List.mem_cons.mp hb
    · exact ⟨a, by simp, ha⟩
    · obtain ⟨x, hx, hfx⟩ := ih (mapM_eq_ok.mpr hl) hb
      exact ⟨x, List.mem_cons_of_mem a hx, hfx⟩

/-- Each step has a value. -/
theorem exists_eq_ok_of_mapM_eq_ok {f : α → Except ε β} {l : List α} {values : List β}
    (h : l.mapM f = .ok values) {a : α} (ha : a ∈ l) : ∃ b, f a = .ok b := by
  induction mapM_eq_ok.mp h with
  | nil => cases ha
  | @cons c b l values hc hl ih =>
    obtain rfl | ha := List.mem_cons.mp ha
    · exact ⟨b, hc⟩
    · exact ih (mapM_eq_ok.mpr hl) ha

theorem length_of_mapM_eq_ok {f : α → Except ε β} {l : List α} {values : List β}
    (h : l.mapM f = .ok values) : values.length = l.length :=
  (mapM_eq_ok.mp h).length_eq.symm

theorem mapM_append_eq_ok {f : α → Except ε β} {l₁ l₂ : List α} {values : List β}
    (h : (l₁ ++ l₂).mapM f = .ok values) :
    ∃ values₁ values₂, l₁.mapM f = .ok values₁ ∧ l₂.mapM f = .ok values₂ ∧
      values = values₁ ++ values₂ := by
  rw [List.mapM_append] at h
  obtain ⟨values₁, h₁, h⟩ := bind_eq_ok.mp h
  obtain ⟨values₂, h₂, h⟩ := bind_eq_ok.mp h
  cases h
  exact ⟨values₁, values₂, h₁, h₂, rfl⟩

theorem exists_mapM_eq_ok {f : α → Except ε β} {l : List α} (h : ∀ a ∈ l, ∃ b, f a = .ok b) :
    ∃ values, l.mapM f = .ok values := by
  induction l with
  | nil => exact ⟨[], rfl⟩
  | cons a l ih =>
    obtain ⟨⟨b, hb⟩, hrest⟩ := List.forall_mem_cons.mp h
    obtain ⟨values, hvalues⟩ := ih hrest
    exact ⟨b :: values, by rw [List.mapM_cons, hb, hvalues]; rfl⟩

theorem exists_mapM_eq_ok_iff {f : α → Except ε β} {l : List α} :
    (∃ values, l.mapM f = .ok values) ↔ ∀ a ∈ l, ∃ b, f a = .ok b :=
  ⟨fun ⟨_, h⟩ _ ha => exists_eq_ok_of_mapM_eq_ok h ha, exists_mapM_eq_ok⟩

theorem mapM_append_of_ok {f : α → Except ε β} {l₁ l₂ : List α} {values : List β}
    (h : l₁.mapM f = .ok values) : (l₁ ++ l₂).mapM f = (values ++ ·) <$> l₂.mapM f := by
  rw [List.mapM_append, h]
  cases l₂.mapM f <;> rfl

theorem mapM_append_of_error {f : α → Except ε β} {l₁ : List α} {fault : ε}
    (h : l₁.mapM f = .error fault) (l₂ : List α) : (l₁ ++ l₂).mapM f = .error fault := by
  rw [List.mapM_append, h]
  rfl

/-! ## Faults -/

/-- Every fault with which a step can end has a property. -/
def FailsOnly (P : ε → Prop) (x : Except ε α) : Prop := ∀ fault, x = .error fault → P fault

namespace FailsOnly

variable {P : ε → Prop} {x : Except ε α}

theorem ok (a : α) : FailsOnly P (.ok a) := nofun

theorem error {fault : ε} (h : P fault) : FailsOnly P (.error fault : Except ε α) := by
  intro other hother
  cases hother
  exact h

theorem bind {f : α → Except ε β} (h : FailsOnly P x) (hf : ∀ a, x = .ok a → FailsOnly P (f a)) :
    FailsOnly P (x >>= f) := by
  cases x with
  | error fault => exact error (h fault rfl)
  | ok a => exact hf a rfl

theorem map {f : α → β} (h : FailsOnly P x) : FailsOnly P (f <$> x) := by
  intro fault hfault
  exact h fault (map_eq_error.mp hfault)

theorem mapError {f : ε → ε'} {P : ε' → Prop} (h : FailsOnly (fun fault => P (f fault)) x) :
    FailsOnly P (x.mapError f) := by
  cases x with
  | error fault => exact error (h fault rfl)
  | ok a => exact ok a

end FailsOnly

/-- The fault with which a step ends, if it fails. -/
def fault? : Except ε α → Option ε
  | .error fault => some fault
  | .ok _ => none

theorem fault?_eq_some_iff {x : Except ε α} {fault : ε} :
    fault? x = some fault ↔ x = .error fault := by
  cases x <;> simp [fault?]

theorem fault?_map (f : α → β) (x : Except ε α) : fault? (f <$> x) = fault? x := by
  cases x <;> rfl

/-! ## Traversals -/

/-- A run over a list that takes a step at each item, telling it its place. What a step gives
does not depend on the place; a fault may. -/
structure IsTraversal (step : Nat → α → Except ε β) (gives : α → β → Prop)
    (run : Nat → List α → Except ε (List β)) : Prop where
  nil : ∀ place, run place [] = .ok []
  cons : ∀ place a l, run place (a :: l) = do
    let b ← step place a
    let bs ← run (place + 1) l
    return b :: bs
  step_eq_ok : ∀ place a b, step place a = .ok b ↔ gives a b

namespace IsTraversal

variable {step : Nat → α → Except ε β} {gives : α → β → Prop}
  {run : Nat → List α → Except ε (List β)} {place : Nat} {l : List α}

theorem eq_ok_iff (h : IsTraversal step gives run) {values : List β} :
    run place l = .ok values ↔ List.Forall₂ gives l values := by
  induction l generalizing place values with
  | nil =>
    rw [h.nil, List.forall₂_nil_left_iff]
    constructor
    · intro hvalues
      cases hvalues
      rfl
    · rintro rfl
      rfl
  | cons a l ih =>
    rw [h.cons, bind_eq_ok]
    constructor
    · rintro ⟨b, hb, hrest⟩
      obtain ⟨bs, hbs, hvalues⟩ := bind_eq_ok.mp hrest
      cases hvalues
      exact .cons ((h.step_eq_ok _ _ _).mp hb) (ih.mp hbs)
    · rintro (_ | ⟨hb, hbs⟩)
      exact ⟨_, (h.step_eq_ok _ _ _).mpr hb, bind_eq_ok.mpr ⟨_, ih.mpr hbs, rfl⟩⟩

theorem exists_eq_ok_iff (h : IsTraversal step gives run) (place : Nat) :
    (∃ values, run place l = .ok values) ↔ ∀ a ∈ l, ∃ b, gives a b := by
  simp only [h.eq_ok_iff]
  induction l with
  | nil => simp
  | cons a l ih =>
    rw [List.forall_mem_cons, ← ih]
    constructor
    · rintro ⟨_, hall⟩
      cases hall with
      | cons ha hl => exact ⟨⟨_, ha⟩, _, hl⟩
    · rintro ⟨⟨b, hb⟩, bs, hbs⟩
      exact ⟨b :: bs, .cons hb hbs⟩

/-- A run fails at the first item whose step fails, with the fault that the step has there. -/
theorem eq_error_iff (h : IsTraversal step gives run) {fault : ε} :
    run place l = .error fault ↔ ∃ before a after, l = before ++ a :: after
      ∧ (∀ b ∈ before, ∃ c, gives b c) ∧ step (place + before.length) a = .error fault := by
  induction l generalizing place with
  | nil =>
    rw [h.nil]
    constructor
    · intro hfault
      cases hfault
    · rintro ⟨before, a, after, hl, -⟩
      cases before <;> cases hl
  | cons a l ih =>
    rw [h.cons]
    cases hstep : step place a with
    | error first =>
      constructor
      · intro hfault
        cases hfault
        exact ⟨[], a, l, rfl, by simp, by simpa using hstep⟩
      · rintro ⟨before, b, after, hl, hbefore, hb⟩
        cases before with
        | nil =>
          cases hl
          rw [List.length_nil, Nat.add_zero, hstep] at hb
          cases hb
          rfl
        | cons c before =>
          cases hl
          obtain ⟨value, hvalue⟩ := hbefore a (by simp)
          rw [(h.step_eq_ok _ _ _).mpr hvalue] at hstep
          cases hstep
    | ok value =>
      have hgives : gives a value := (h.step_eq_ok _ _ _).mp hstep
      change (value :: ·) <$> run (place + 1) l = .error fault ↔ _
      rw [map_eq_error, ih]
      constructor
      · rintro ⟨before, b, after, rfl, hbefore, hb⟩
        refine ⟨a :: before, b, after, rfl, ?_, ?_⟩
        · exact List.forall_mem_cons.mpr ⟨⟨value, hgives⟩, hbefore⟩
        · rwa [List.length_cons, ← Nat.add_assoc, Nat.add_right_comm]
      · rintro ⟨before, b, after, hl, hbefore, hb⟩
        cases before with
        | nil =>
          cases hl
          rw [List.length_nil, Nat.add_zero, hstep] at hb
          cases hb
        | cons c before =>
          cases hl
          refine ⟨before, b, after, rfl, ?_, ?_⟩
          · intro x hx
            exact hbefore x (List.mem_cons_of_mem a hx)
          · rwa [List.length_cons, ← Nat.add_assoc, Nat.add_right_comm] at hb

/-- A run over two lists, one behind the other, is a run over the first and then one over the
second, which starts at the place where the first one ends. -/
theorem append (h : IsTraversal step gives run) (l₁ l₂ : List α) :
    run place (l₁ ++ l₂) = do
      let first ← run place l₁
      let second ← run (place + l₁.length) l₂
      return first ++ second := by
  induction l₁ generalizing place with
  | nil =>
    rw [List.nil_append, List.length_nil, Nat.add_zero, h.nil]
    cases run place l₂ <;> rfl
  | cons a l₁ ih =>
    have hplace : place + 1 + l₁.length = place + (l₁.length + 1) := by omega
    rw [List.cons_append, List.length_cons, h.cons, h.cons, ih, hplace]
    cases step place a with
    | error fault => rfl
    | ok b =>
      cases run (place + 1) l₁ with
      | error fault => rfl
      | ok first => cases run (place + (l₁.length + 1)) l₂ <;> rfl

/-- Where a step that is taken later ends in the same way but for its fault, so does a run. -/
theorem run_add (h : IsTraversal step gives run) {n : Nat} {shift : ε → ε}
    (hstep : ∀ place a, step (place + n) a = (step place a).mapError shift) :
    run (place + n) l = (run place l).mapError shift := by
  induction l generalizing place with
  | nil =>
    rw [h.nil, h.nil]
    rfl
  | cons a l ih =>
    rw [h.cons, h.cons, hstep, Nat.add_right_comm, ih]
    cases step place a with
    | error fault => rfl
    | ok b => cases run (place + 1) l <;> rfl

/-- What stands behind an item whose step fails is not looked at. -/
theorem append_cons_of_fails (h : IsTraversal step gives run) {a : α} (ha : ¬ ∃ b, gives a b)
    (before after others : List α) :
    run place (before ++ a :: after) = run place (before ++ a :: others) := by
  induction before generalizing place with
  | nil =>
    rw [List.nil_append, List.nil_append, h.cons, h.cons]
    cases hstep : step place a with
    | error fault => rfl
    | ok b => exact absurd ⟨b, (h.step_eq_ok _ _ _).mp hstep⟩ ha
  | cons c before ih => rw [List.cons_append, List.cons_append, h.cons, h.cons, ih]

end IsTraversal

theorem isTraversal_mapM (f : α → Except ε β) :
    IsTraversal (fun _ => f) (fun a b => f a = .ok b) (fun _ l => l.mapM f) where
  nil _ := rfl
  cons _ _ _ := List.mapM_cons
  step_eq_ok _ _ _ := Iff.rfl

/-- A list of steps fails with the fault of the first step that does. -/
theorem mapM_eq_error {f : α → Except ε β} {l : List α} {fault : ε} :
    l.mapM f = .error fault ↔ ∃ before a after, l = before ++ a :: after
      ∧ (∀ b ∈ before, ∃ c, f b = .ok c) ∧ f a = .error fault :=
  @IsTraversal.eq_error_iff ε α β _ _ _ 0 l (isTraversal_mapM f) fault

end Retrace.Result
