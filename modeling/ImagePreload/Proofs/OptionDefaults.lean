import ImagePreload.Proofs.DocumentImages
import ImagePreload.Proofs.NestedOptions

/-!
# Options that count as something else when they are missing

An option may be asked for with a default. Where its name leads to a value, that
value is had, whatever it is, and so would any other lookup of the name have it. A
name can lead nowhere in two ways, and only the one is taken for a missing option:
at a key that a mapping lacks. At a value that is no mapping but has keys left to
be looked up in it (`Value.Obstructed`), asking for the option fails, default or
not, while a plain lookup of the name just comes to nothing. Apart from that the
two are the same (`Config.Section.get_default_iff`).
-/

namespace ImagePreload

namespace Value

/-- A value that keys lead to while there are more of them, and that is no mapping. -/
inductive Obstructed (v : Value) (keys : List String) (w : Value) : Prop where
  | intro {before after : List String} {key : String} (leads : v.Leads before w)
    (rest : keys = before ++ key :: after) (noMapping : ∀ entries, w ≠ .map entries)

theorem Obstructed.inside {entries : Entries} {key : String} {keys : List String} {v w : Value}
    (found : entries.get? (.text key) = some v) (h : v.Obstructed keys w) :
    (Value.map entries).Obstructed (key :: keys) w := by
  obtain ⟨leads, rfl, noMapping⟩ := h
  exact ⟨.inside found leads, rfl, noMapping⟩

theorem Obstructed.of_inside {entries : Entries} {key : String} {keys : List String} {w : Value}
    (h : (Value.map entries).Obstructed (key :: keys) w) :
    ∃ v, entries.get? (.text key) = some v ∧ v.Obstructed keys w := by
  obtain ⟨leads, rest, noMapping⟩ := h
  cases leads with
  | here => exact absurd rfl (noMapping entries)
  | inside found leads =>
      injection rest with hkey hrest
      subst hkey
      exact ⟨_, found, leads, hrest, noMapping⟩

theorem Obstructed.of_noMapping {key : String} {keys : List String} {v w : Value}
    (noMapping : ∀ entries, v ≠ .map entries) (h : v.Obstructed (key :: keys) w) : w = v := by
  obtain ⟨leads, -, -⟩ := h
  cases leads with
  | here => rfl
  | inside => exact absurd rfl (noMapping _)

end Value

namespace Config.Section

theorem follow_obstructed_iff (fullName : String) {v w : Value} {keys : List String} :
    follow fullName v keys = .error (.notMapping w) ↔ v.Obstructed keys w := by
  induction keys generalizing v with
  | nil =>
      refine iff_of_false (by simp [follow]) ?_
      rintro ⟨_, rest, -⟩
      exact List.append_ne_nil_of_right_ne_nil _ (List.cons_ne_nil _ _) rest.symm
  | cons key keys ih =>
      by_cases hmap : ∃ entries, v = .map entries
      · obtain ⟨entries, rfl⟩ := hmap
        rw [follow]
        cases hfound : Entries.get? (.text key) entries with
        | none =>
            refine iff_of_false (by simp) fun h => ?_
            obtain ⟨_, hsome, -⟩ := h.of_inside
            cases hfound.symm.trans hsome
        | some inner =>
            refine ih.trans ⟨.inside hfound, fun h => ?_⟩
            obtain ⟨_, hsome, h⟩ := h.of_inside
            cases hfound.symm.trans hsome
            exact h
      · have noMapping : ∀ entries, v ≠ .map entries := fun entries h => hmap ⟨entries, h⟩
        have hfollow : follow fullName v (key :: keys) = .error (.notMapping v) := by
          cases v with
          | map entries => exact absurd rfl (noMapping entries)
          | _ => rfl
        rw [hfollow]
        constructor
        · rintro ⟨⟩
          exact ⟨.here _, rfl, noMapping⟩
        · intro h
          rw [h.of_noMapping noMapping]

variable (s : Section) (name : String) (d : Value)

/-- A name that leads to a value, to a key that is missing or to no mapping. -/
theorem get_default_cases :
    (∃ v, s.value.lookup? name = some v ∧
        s.get name { default := some d } = .ok (ofFound (s.nameOf name {}) v)) ∨
      s.value.lookup? name = none ∧ s.get name { default := some d } = .ok ⟨d, none⟩ ∨
      ∃ w, s.value.lookup? name = none ∧
        s.get name { default := some d } = .error (.notMapping w) := by
  rw [get_eq_answer]
  cases hfollow : follow (s.nameOf name { default := some d }) s.value (dotted name) with
  | ok v => exact Or.inl ⟨v, follow_eq_ok.1 hfollow, rfl⟩
  | error e =>
      obtain ⟨hnone, he⟩ := follow_eq_error hfollow
      rcases he with rfl | ⟨w, rfl⟩
      · exact Or.inr (Or.inl ⟨hnone, rfl⟩)
      · exact Or.inr (Or.inr ⟨w, hnone, rfl⟩)

theorem value_ofFound (fullName : String) (v : Value) : (ofFound fullName v).value = v := by
  cases v <;> rfl

theorem get_default_obstructed_iff (w : Value) :
    s.get name { default := some d } = .error (.notMapping w) ↔
      s.value.Obstructed (dotted name) w := by
  rw [← follow_obstructed_iff (s.nameOf name { default := some d }), get_eq_answer]
  cases follow (s.nameOf name { default := some d }) s.value (dotted name) with
  | ok v => exact iff_of_false (by simp [answer]) (by simp)
  | error e =>
      cases e with
      | missing fullName => exact iff_of_false (by simp [answer]) (by simp)
      | wrongType fullName actual wanted => exact iff_of_false (by simp [answer]) (by simp)
      | notMapping v =>
          rw [answer, Except.error.injEq, Except.error.injEq]
          rintro _ ⟨⟩

/-- An option with a default and a plain lookup of its name come to the same, the value that
the name leads to, be it null, or else the default, unless the name goes on behind a value
that is no mapping. Then a lookup still comes to the default, but the option cannot be had,
because of that value. -/
theorem get_default_iff :
    (∀ v, s.value.lookup? name = some v ↔ s.value.Leads (dotted name) v) ∧
    ((∃ r, s.get name { default := some d } = .ok r ∧
        r.value = (s.value.lookup? name).getD d) ↔
      ¬ ∃ w, s.value.Obstructed (dotted name) w) ∧
    ∀ w, s.value.Obstructed (dotted name) w ↔
      (s.value.lookup? name).getD d = d ∧
        s.get name { default := some d } = .error (.notMapping w) := by
  have hobstructed := s.get_default_obstructed_iff name d
  refine ⟨fun v => Value.leads_lookup_iff.symm, ?_, fun w => ?_⟩
  · rcases s.get_default_cases name d with ⟨v, hv, hget⟩ | ⟨hnone, hget⟩ | ⟨w, hnone, hget⟩
    · refine iff_of_true ⟨_, hget, ?_⟩ fun ⟨w, hw⟩ => ?_
      · rw [value_ofFound, hv, Option.getD_some]
      · cases hget.symm.trans ((hobstructed w).2 hw)
    · refine iff_of_true ⟨_, hget, by rw [hnone, Option.getD_none]⟩ fun ⟨w, hw⟩ => ?_
      cases hget.symm.trans ((hobstructed w).2 hw)
    · refine iff_of_false (fun ⟨r, hr, _⟩ => ?_) (not_not.2 ⟨w, (hobstructed w).1 hget⟩)
      cases hget.symm.trans hr
  · refine ⟨fun hw => ?_, fun h => (hobstructed w).1 h.2⟩
    have hget := (hobstructed w).2 hw
    refine ⟨?_, hget⟩
    rcases s.get_default_cases name d with ⟨v, -, hok⟩ | ⟨-, hok⟩ | ⟨_, hnone, -⟩
    · cases hget.symm.trans hok
    · cases hget.symm.trans hok
    · rw [hnone, Option.getD_none]

/-- A text where a mapping would be looked into. -/
def flatOptions : Section := ⟨.map [(.text "cleanupTimeout", .text "5m")], none⟩

theorem get_default_in_text :
    flatOptions.get "cleanupTimeout.x" { default := some (.text "d") } =
        .error (.notMapping (.text "5m")) ∧
      (flatOptions.value.lookup? "cleanupTimeout.x").getD (.text "d") = .text "d" ∧
      ¬ ∃ r, flatOptions.get "cleanupTimeout.x" { default := some (.text "d") } = .ok r ∧
        r.value = (flatOptions.value.lookup? "cleanupTimeout.x").getD (.text "d") := by
  have hget : flatOptions.get "cleanupTimeout.x" { default := some (.text "d") } =
      .error (.notMapping (.text "5m")) := by cbv
  have hlookup : flatOptions.value.lookup? "cleanupTimeout.x" = none := by cbv
  refine ⟨hget, by rw [hlookup, Option.getD_none], ?_⟩
  rintro ⟨r, hr, -⟩
  cases hget.symm.trans hr

end Config.Section

end ImagePreload
