import ImagePreload.Duration
import Mathlib.Data.List.TakeWhile

/-!
# Rows of components

What is taken off the front of a text as a component is as long as it can be. This comes
to a grammar: what a text is taken apart into is a row of components that it is written
as, and there is no other one (`components?_eq_some`, `Duration.Spells.unique`). No
component is the beginning of another one with digits behind it, since a unit is no
digit, and `ms` is never a minute with a second behind it, since a second has digits in
front of it (`takeComponent_text`). So rows of components can be put together as the
texts are.
-/

namespace ImagePreload

namespace Duration

/-! ## What components are written as -/

def Scale.text : Scale → List Char
  | .milliseconds => ['m', 's']
  | .seconds => ['s']
  | .minutes => ['m']
  | .hours => ['h']

def pointed : Option (List Char) → List Char
  | none => []
  | some ds => '.' :: ds

namespace Component

/-- The number of a component without the unit. -/
def number (c : Component) : List Char := c.whole ++ pointed c.behind

def text (c : Component) : List Char := c.number ++ c.scale.text

end Component

/-- At least one digit, and nothing else. -/
def IsDigits (ds : List Char) : Prop := ds ≠ [] ∧ ∀ d ∈ ds, d.isDigit = true

/-- Digits, and digits behind the point if there is one. -/
def Component.WellFormed (c : Component) : Prop :=
  IsDigits c.whole ∧ ∀ ds, c.behind = some ds → IsDigits ds

/-- A row of components as which a text is written. -/
def Spells (parts : List Component) (cs : List Char) : Prop :=
  (∀ c ∈ parts, c.WellFormed) ∧ parts.flatMap Component.text = cs

/-! ## Digits at the front -/

section

variable {ds rest cs : List Char}

theorem isDigits_takeWhile (h : cs.takeWhile Char.isDigit ≠ []) :
    IsDigits (cs.takeWhile Char.isDigit) :=
  ⟨h, fun _ mem => List.mem_takeWhile_imp mem⟩

theorem takeWhile_digits (hds : ∀ d ∈ ds, d.isDigit = true)
    (hrest : ∀ c ∈ rest.head?, c.isDigit = false) :
    (ds ++ rest).takeWhile Char.isDigit = ds ∧ (ds ++ rest).dropWhile Char.isDigit = rest := by
  rw [List.takeWhile_append_of_pos hds, List.dropWhile_append_of_pos hds]
  cases rest with
  | nil => simp
  | cons c rest =>
      have hc : c.isDigit = false := hrest c rfl
      simp [hc]

theorem scale_head (scale : Scale) (rest : List Char) :
    ∃ c, (scale.text ++ rest).head? = some c ∧ c.isDigit = false ∧ c ≠ '.' := by
  cases scale with
  | milliseconds | minutes => exact ⟨'m', rfl, by decide, by decide⟩
  | seconds => exact ⟨'s', rfl, by decide, by decide⟩
  | hours => exact ⟨'h', rfl, by decide, by decide⟩

end

/-! ## One component -/

section

variable {cs rest : List Char} {component : Component}

theorem takeScale_eq_some {scale : Scale} (h : takeScale cs = some (scale, rest)) :
    cs = scale.text ++ rest := by
  unfold takeScale at h
  split at h <;> cases h <;> rfl

theorem takeScale_text (scale : Scale) (hrest : rest.head? ≠ some 's') :
    takeScale (scale.text ++ rest) = some (scale, rest) := by
  cases scale with
  | minutes =>
      cases rest with
      | nil => rfl
      | cons c rest =>
          have hc : c ≠ 's' := by simpa using hrest
          simp [Scale.text, takeScale, hc]
  | _ => rfl

theorem takeFraction_eq {behind : Option (List Char)} (h : takeFraction cs = (behind, rest)) :
    cs = pointed behind ++ rest ∧ ∀ ds, behind = some ds → IsDigits ds := by
  unfold takeFraction at h
  split at h
  · next tail =>
      split at h
      · cases h
        exact ⟨rfl, nofun⟩
      · next hnot =>
          cases h
          refine ⟨?_, ?_⟩
          · show '.' :: tail = '.' :: (tail.takeWhile Char.isDigit ++ tail.dropWhile Char.isDigit)
            rw [List.takeWhile_append_dropWhile]
          · rintro ds ⟨⟩
            exact isDigits_takeWhile hnot
  · cases h
    exact ⟨rfl, nofun⟩

theorem takeFraction_pointed {behind : Option (List Char)}
    (hbehind : ∀ ds, behind = some ds → IsDigits ds)
    (hrest : ∀ c ∈ rest.head?, c.isDigit = false ∧ c ≠ '.') :
    takeFraction (pointed behind ++ rest) = (behind, rest) := by
  cases behind with
  | none =>
      show takeFraction rest = _
      unfold takeFraction
      split
      · next tail => exact absurd rfl (hrest '.' rfl).2
      · rfl
  | some ds =>
      obtain ⟨hne, hds⟩ := hbehind ds rfl
      obtain ⟨htake, hdrop⟩ := takeWhile_digits hds fun c hc => (hrest c hc).1
      show takeFraction ('.' :: (ds ++ rest)) = _
      simp only [takeFraction, htake, hdrop]

theorem takeComponent_eq_some (h : takeComponent cs = some (component, rest)) :
    component.WellFormed ∧ cs = component.text ++ rest := by
  unfold takeComponent at h
  split at h
  · cases h
  · next hnot =>
      generalize hfraction : takeFraction (cs.dropWhile Char.isDigit) = fraction at h
      obtain ⟨behind, tail⟩ := fraction
      obtain ⟨⟨scale, rest'⟩, hscale, heq⟩ := Option.map_eq_some_iff.1 h
      cases heq
      obtain ⟨htail, hbehind⟩ := takeFraction_eq hfraction
      refine ⟨⟨isDigits_takeWhile hnot, hbehind⟩, ?_⟩
      calc cs = cs.takeWhile Char.isDigit ++ cs.dropWhile Char.isDigit :=
            List.takeWhile_append_dropWhile.symm
        _ = cs.takeWhile Char.isDigit ++ (pointed behind ++ (scale.text ++ rest)) := by
            rw [htail, takeScale_eq_some hscale]
        _ = _ := by simp [Component.text, Component.number]

/-- A component is taken off the front unless there is more of its unit. -/
theorem takeComponent_text (h : component.WellFormed) (hrest : rest.head? ≠ some 's') :
    takeComponent (component.text ++ rest) = some (component, rest) := by
  obtain ⟨whole, behind, scale⟩ := component
  obtain ⟨⟨hne, hwhole⟩, hbehind⟩ := h
  obtain ⟨c, hhead, hdigit, hpoint⟩ := scale_head scale rest
  have htext : Component.text ⟨whole, behind, scale⟩ ++ rest =
      whole ++ (pointed behind ++ (scale.text ++ rest)) := by
    simp [Component.text, Component.number]
  have hnext : ∀ c ∈ (pointed behind ++ (scale.text ++ rest)).head?, c.isDigit = false := by
    cases behind with
    | none =>
        intro c' hc'
        cases hhead.symm.trans hc'
        exact hdigit
    | some ds =>
        rintro c' ⟨⟩
        decide
  -- so the digits that are taken are those of the number, and all of them
  obtain ⟨htake, hdrop⟩ := takeWhile_digits hwhole hnext
  have hfraction : takeFraction (pointed behind ++ (scale.text ++ rest)) =
      (behind, scale.text ++ rest) := by
    refine takeFraction_pointed hbehind fun c' hc' => ?_
    cases hhead.symm.trans hc'
    exact ⟨hdigit, hpoint⟩
  rw [htext]
  simp only [takeComponent, htake, hdrop, hfraction, takeScale_text scale hrest, Option.map_some]

example : takeComponent "1ms2m".toList =
    some (⟨['1'], none, .milliseconds⟩, "2m".toList) := by
  decide

end

/-! ## Rows of components -/

section

variable {cs cs' : List Char} {parts parts' : List Component} {component : Component}

theorem Component.WellFormed.text_head (h : component.WellFormed) :
    ∃ d ds, component.text = d :: ds ∧ d.isDigit = true := by
  obtain ⟨⟨hne, hwhole⟩, -⟩ := h
  obtain ⟨d, ds, hcons⟩ := List.exists_cons_of_ne_nil hne
  refine ⟨d, ds ++ pointed component.behind ++ component.scale.text, ?_, ?_⟩
  · rw [Component.text, Component.number, hcons]
    rfl
  · exact hwhole d (hcons ▸ List.mem_cons_self)

/-- What a row begins with is no unit. -/
theorem Spells.head_ne (h : Spells parts cs) : cs.head? ≠ some 's' := by
  obtain ⟨hparts, rfl⟩ := h
  cases parts with
  | nil => exact nofun
  | cons component parts =>
      obtain ⟨d, ds, htext, hd⟩ := (hparts component List.mem_cons_self).text_head
      rw [List.flatMap_cons, htext]
      rintro ⟨⟩
      cases hd

theorem Spells.append (h : Spells parts cs) (h' : Spells parts' cs') :
    Spells (parts ++ parts') (cs ++ cs') := by
  obtain ⟨hparts, rfl⟩ := h
  obtain ⟨hparts', rfl⟩ := h'
  exact ⟨List.forall_mem_append.2 ⟨hparts, hparts'⟩, List.flatMap_append⟩

theorem spells_of_components? (h : components? cs = some parts) : Spells parts cs := by
  induction cs using components?.induct generalizing parts with
  | case1 =>
      rw [components?] at h
      cases h
      exact ⟨List.forall_mem_nil _, rfl⟩
  | case2 c cs hnone =>
      rw [components?, hnone] at h
      cases h
  | case3 c cs component rest hsome hshort ih =>
      rw [components?, hsome] at h
      simp only [hshort, dite_true] at h
      obtain ⟨parts, hrest, rfl⟩ := Option.map_eq_some_iff.1 h
      obtain ⟨hcomponent, htext⟩ := takeComponent_eq_some hsome
      obtain ⟨hparts, htexts⟩ := ih hrest
      refine ⟨List.forall_mem_cons.2 ⟨hcomponent, hparts⟩, ?_⟩
      rw [List.flatMap_cons, htexts, htext]
  | case4 c cs component rest hsome hlong =>
      rw [components?, hsome] at h
      simp only [hlong, dite_false] at h
      cases h

theorem components?_of_spells (h : Spells parts cs) : components? cs = some parts := by
  induction parts generalizing cs with
  | nil =>
      obtain ⟨-, rfl⟩ := h
      rw [List.flatMap_nil, components?]
  | cons component parts ih =>
      obtain ⟨hall, rfl⟩ := h
      obtain ⟨hcomponent, hparts⟩ := List.forall_mem_cons.1 hall
      have hrest : Spells parts (parts.flatMap Component.text) := ⟨hparts, rfl⟩
      -- the row behind it begins with a digit, so no more of its unit is there
      have htake := takeComponent_text hcomponent hrest.head_ne
      obtain ⟨d, ds, htext, -⟩ := hcomponent.text_head
      rw [List.flatMap_cons]
      rw [htext, List.cons_append] at htake ⊢
      rw [components?, htake]
      have hshort : (parts.flatMap Component.text).length <
          (d :: (ds ++ parts.flatMap Component.text)).length := by
        rw [List.length_cons, List.length_append]
        omega
      simp only [hshort, dite_true, ih hrest, Option.map_some]

/-- What a text is taken apart into is the one row of components that it is written as. -/
theorem components?_eq_some : components? cs = some parts ↔ Spells parts cs :=
  ⟨spells_of_components?, components?_of_spells⟩

theorem Spells.unique (h : Spells parts cs) (h' : Spells parts' cs) : parts = parts' :=
  Option.some.inj ((components?_of_spells h).symm.trans (components?_of_spells h'))

end

end Duration

end ImagePreload
