import ImagePreload.Config.Validation
import ImagePreload.Proofs.Entries
import Mathlib.Data.List.Forall2

/-!
# What rules make of a value

Completing a value takes three steps: a default may take its place, it may be
converted, and then what is inside it is completed in turn (`Rule.complete_eq`).
Only the last step looks further than the value itself, so a fact about a rule
follows from the same fact about the rules inside it, whatever these are.

A rule accepts a value as another one, completed (`Rule.Accepts`). Of a mapping
that means that each of its fields is accepted by the rule of that field
(`accepts_of_field`), and of a list the same item by item
(`accepts_of_items`). A rule is stable if it accepts what it made of a value as
it is (`Rule.Stable`). Rules are stable when those inside them are
(`Rule.stable_of_parts`): a converted value needs no conversion, and where a
default was put there is something now. The same goes for rules that take no part
of such a value for a rule (`Rule.clear_of_parts`).
-/

namespace ImagePreload.Config

/-! ## The steps of completion -/

/-- What a value is completed from: itself or the default in its place, converted. -/
def Rule.start (rule : Rule) (key v : Value) : Value × List Finding :=
  rule.convert key (rule.substitute v)

/-- A value with what is inside it completed. -/
def Rule.inside (rule : Rule) : Value → Value × List Finding
  | .map entries =>
    let (entries, inValues) := completeValues rule.values entries
    let (entries, inFields) := completeFields rule.fields entries
    (.map entries, inValues ++ inFields)
  | .list vs =>
    let (vs, inItems) := completeItems rule.items 0 vs
    (.list vs, inItems)
  | .tuple vs =>
    let (vs, inItems) := completeItems rule.items 0 vs
    (.tuple vs, inItems)
  | v => (v, [])

section

variable {rule : Rule} {key key' u v w : Value}

theorem Rule.complete_eq (rule : Rule) (key v : Value) :
    rule.complete key v = ((rule.inside (rule.start key v).1).1,
      (rule.start key v).2 ++ (rule.inside (rule.start key v).1).2) := by
  cases rule
  rw [Rule.complete]
  unfold Rule.start
  split
  next v found h =>
    rw [h]
    cases v <;> simp [Rule.inside]

/-- A value is completed without a finding if both steps find nothing. -/
theorem Rule.complete_eq_nil_iff :
    rule.complete key v = (w, []) ↔
      ∃ u, rule.start key v = (u, []) ∧ rule.inside u = (w, []) := by
  rw [Rule.complete_eq]
  constructor
  · intro h
    obtain ⟨hw, hfound⟩ := Prod.mk.inj h
    obtain ⟨hstart, hinside⟩ := List.append_eq_nil_iff.1 hfound
    exact ⟨_, Prod.ext rfl hstart, Prod.ext hw hinside⟩
  · rintro ⟨u, hstart, hinside⟩
    simp [hstart, hinside]

theorem Rule.inside_map_eq_nil_iff {entries : Entries} :
    rule.inside (.map entries) = (w, []) ↔
      ∃ entries₁ entries₂, completeValues rule.values entries = (entries₁, []) ∧
        completeFields rule.fields entries₁ = (entries₂, []) ∧ w = .map entries₂ := by
  rw [Rule.inside]
  constructor
  · intro h
    obtain ⟨hw, hfound⟩ := Prod.mk.inj h
    obtain ⟨hvalues, hfields⟩ := List.append_eq_nil_iff.1 hfound
    exact ⟨_, _, Prod.ext rfl hvalues, Prod.ext rfl hfields, hw.symm⟩
  · rintro ⟨entries₁, entries₂, hvalues, hfields, rfl⟩
    simp [hvalues, hfields]

theorem Rule.inside_list_eq_nil_iff {vs : List Value} :
    rule.inside (.list vs) = (w, []) ↔
      ∃ ws, completeItems rule.items 0 vs = (ws, []) ∧ w = .list ws := by
  rw [Rule.inside]
  constructor
  · intro h
    obtain ⟨hw, hitems⟩ := Prod.mk.inj h
    exact ⟨_, Prod.ext rfl hitems, hw.symm⟩
  · rintro ⟨ws, hitems, rfl⟩
    simp [hitems]

theorem Rule.inside_tuple_eq_nil_iff {vs : List Value} :
    rule.inside (.tuple vs) = (w, []) ↔
      ∃ ws, completeItems rule.items 0 vs = (ws, []) ∧ w = .tuple ws := by
  rw [Rule.inside]
  constructor
  · intro h
    obtain ⟨hw, hitems⟩ := Prod.mk.inj h
    exact ⟨_, Prod.ext rfl hitems, hw.symm⟩
  · rintro ⟨ws, hitems, rfl⟩
    simp [hitems]

/-! ### Conversions -/

/-- Whether a rule makes texts of values. -/
def Rule.convertsToText (rule : Rule) : Bool := rule.conversion == some .toText

@[simp] theorem Rule.substitute_of_ne_null (hv : v ≠ .null) : rule.substitute v = v := by
  unfold Rule.substitute
  split
  · exact absurd rfl hv
  · rfl

theorem Rule.substitute_of_nullable (h : rule.nullable = true) : rule.substitute v = v := by
  unfold Rule.substitute
  split
  · rw [if_pos h]
  · rfl

theorem Rule.substitute_of_no_default (h : rule.default = none) : rule.substitute v = v := by
  unfold Rule.substitute
  rw [h]
  cases v <;> rfl

theorem Rule.convert_text (h : rule.convertsToText = true) (s : String) :
    rule.convert key (.text s) = (.text s, []) := by
  have h : rule.conversion = some .toText := by simpa [Rule.convertsToText] using h
  simp [Rule.convert, h, Conversion.apply, Value.isTooLong, Value.display]

theorem Rule.convert_of_ne_null (h : rule.convertsToText = false)
    (hv : rule.conversion = none ∨ v ≠ .null) : rule.convert key v = (v, []) := by
  have h : rule.conversion ≠ some .toText := by simpa [Rule.convertsToText] using h
  unfold Rule.convert
  cases hc : rule.conversion with
  | none => rfl
  | some conversion =>
      have hv : v ≠ .null := hv.resolve_left (by simp [hc])
      have happly : conversion.apply v = .ok v := by
        unfold Conversion.apply
        split
        · exact absurd hc h
        · exact absurd rfl hv
        · exact absurd rfl hv
        · rfl
      simp only [happly]

/-- A value that could be converted is a text where one is asked for, and no null
where a container is. -/
theorem Rule.convert_eq_nil (h : rule.convert key u = (v, [])) :
    (rule.convertsToText = true ∧ v = .text u.display) ∨
      (rule.convertsToText = false ∧ (rule.conversion = none ∨ v ≠ .null) ∧
        (u ≠ .null → v = u)) := by
  unfold Rule.convert at h
  unfold Rule.convertsToText
  cases hc : rule.conversion with
  | none =>
      rw [hc] at h
      cases h
      exact Or.inr ⟨by simp, Or.inl rfl, fun _ => rfl⟩
  | some conversion =>
      simp only [hc] at h
      cases conversion with
      | toText =>
          left
          refine ⟨rfl, ?_⟩
          by_cases hlong : u.isTooLong = true
          · have hnull : u ≠ .null := by
              rintro rfl
              simp [Value.isTooLong] at hlong
            cases u <;> simp_all [Conversion.apply]
          · simp_all [Conversion.apply]
      | toMapping | toList =>
          right
          cases u <;> simp_all [Conversion.apply] <;> simp [← h]

/-- What comes of a start does not depend on the key, which is only named in
messages. -/
theorem Rule.start_of_key (h : rule.start key v = (u, [])) : rule.start key' v = (u, []) := by
  unfold Rule.start Rule.convert at *
  cases hc : rule.conversion with
  | none => simpa [hc] using h
  | some conversion =>
      simp only [hc] at h ⊢
      cases ha : conversion.apply (rule.substitute v) with
      | ok x => simpa [ha] using h
      | error reason =>
          simp only [ha] at h ⊢
          cases hnull : rule.substitute v <;> cases hn : rule.nullable <;>
            simp [hnull, hn] at h ⊢
          exact h

theorem Rule.complete_of_key (h : rule.complete key v = (w, [])) :
    rule.complete key' v = (w, []) := by
  obtain ⟨u, hstart, hinside⟩ := Rule.complete_eq_nil_iff.1 h
  exact Rule.complete_eq_nil_iff.2 ⟨u, Rule.start_of_key hstart, hinside⟩

end

/-! ### What is inside -/

section

variable {rule : Rule} {key v w : Value}

/-- A value that a rule completes without a finding, whatever the key. -/
def Rule.Completes (rule : Rule) (given completed : Value) : Prop :=
  ∀ key, rule.complete key given = (completed, [])

theorem Rule.completes_of_key (h : rule.complete key v = (w, [])) : rule.Completes v w :=
  fun _ => Rule.complete_of_key h

theorem completeValues_eq (entries : Entries) :
    completeValues (some rule) entries =
      (entries.map fun e => (e.1, (rule.complete e.1 e.2).1),
        entries.flatMap fun e => (rule.complete e.1 e.2).2.map (·.under e.1)) := by
  rw [completeValues]
  induction entries with
  | nil => rfl
  | cons e entries ih => rw [List.foldr_cons, ih, List.map_cons, List.flatMap_cons]

theorem completeItems_eq (start : Nat) (vs : List Value) :
    completeItems (some rule) start vs =
      ((vs.zipIdx start).map fun e => (rule.complete (.int e.2) e.1).1,
        (vs.zipIdx start).flatMap fun e =>
          (rule.complete (.int e.2) e.1).2.map (·.under (.int e.2))) := by
  rw [completeItems]
  induction vs generalizing start with
  | nil => rfl
  | cons v vs ih => rw [List.zipIdx_cons, List.foldr_cons, ih, List.map_cons, List.flatMap_cons]

theorem completeValues_eq_nil_iff {entries completed : Entries} :
    completeValues (some rule) entries = (completed, []) ↔
      List.Forall₂ (fun e e' => e'.1 = e.1 ∧ rule.Completes e.2 e'.2) entries completed := by
  rw [completeValues_eq, Prod.mk.injEq, List.flatMap_eq_nil_iff]
  constructor
  · rintro ⟨rfl, hfound⟩
    refine List.forall₂_map_right_iff.2 (List.forall₂_same.2 fun e mem => ⟨rfl, ?_⟩)
    exact Rule.completes_of_key (Prod.ext rfl (List.map_eq_nil_iff.1 (hfound e mem)))
  · intro h
    induction h with
    | nil => exact ⟨rfl, List.forall_mem_nil _⟩
    | @cons e e' _ _ hentry _ ih =>
        obtain ⟨hkey, hcompletes⟩ := hentry
        refine ⟨?_, List.forall_mem_cons.2 ⟨?_, ih.2⟩⟩
        · rw [List.map_cons, ih.1, hcompletes]
          exact congrArg (· :: _) (Prod.ext hkey.symm rfl)
        · rw [hcompletes]
          rfl

theorem completeItems_eq_nil_iff {start : Nat} {vs completed : List Value} :
    completeItems (some rule) start vs = (completed, []) ↔
      List.Forall₂ rule.Completes vs completed := by
  rw [completeItems_eq, Prod.mk.injEq, List.flatMap_eq_nil_iff]
  constructor
  · rintro ⟨rfl, hfound⟩
    rw [← List.zipIdx_map_fst start vs, List.forall₂_map_left_iff, List.zipIdx_map_fst,
      List.forall₂_map_right_iff, List.forall₂_same]
    intro e mem
    exact Rule.completes_of_key (Prod.ext rfl (List.map_eq_nil_iff.1 (hfound e mem)))
  · intro h
    induction h generalizing start with
    | nil => exact ⟨rfl, List.forall_mem_nil _⟩
    | cons hcompletes _ ih =>
        rw [List.zipIdx_cons]
        refine ⟨?_, List.forall_mem_cons.2 ⟨?_, ih.2⟩⟩
        · rw [List.map_cons, ih.1, hcompletes]
        · rw [hcompletes]
          rfl

/-- What a field is completed from: what stands there, or its default. -/
def Rule.given (rule : Rule) (name : String) (entries : Entries) : Option Value :=
  (entries.get? (.text name)).or rule.default

section

variable {name : String} {rules : List (String × Rule)} {entries completed : Entries}

theorem completeEach_cons_of_none (h : rule.given name entries = none) :
    completeEach ((name, rule) :: rules) entries = completeEach rules entries := by
  obtain ⟨hget, hdefault⟩ := Option.or_eq_none_iff.1 h
  rw [completeEach, hget, hdefault]
  rfl

theorem completeEach_cons_of_some (h : rule.given name entries = some v) :
    completeEach ((name, rule) :: rules) entries =
      ((completeEach rules (entries.insert (.text name) (rule.complete (.text name) v).1)).1,
        (rule.complete (.text name) v).2.map (·.under (.text name)) ++
          (completeEach rules
            (entries.insert (.text name) (rule.complete (.text name) v).1)).2) := by
  rw [completeEach]
  cases hget : entries.get? (.text name) with
  | some u =>
      rw [Rule.given, hget, Option.some_or] at h
      cases h
      rfl
  | none =>
      rw [Rule.given, hget, Option.none_or] at h
      rw [h]

/-- What is put under the name of one field leaves the other fields as they are. -/
theorem Rule.given_insert_of_ne {other : String} (hne : other ≠ name) (w : Value) :
    rule.given name (entries.insert (.text other) w) = rule.given name entries := by
  rw [Rule.given, Entries.get?_insert_of_ne hne, Rule.given]

theorem get?_completeEach_of_not_mem (hname : name ∉ rules.map (·.1)) :
    (completeEach rules entries).1.get? (.text name) = entries.get? (.text name) := by
  induction rules generalizing entries with
  | nil => rw [completeEach]
  | cons field rules ih =>
      obtain ⟨other, rule⟩ := field
      rw [List.map_cons, List.mem_cons, not_or] at hname
      cases hgiven : rule.given other entries with
      | none => rw [completeEach_cons_of_none hgiven, ih hname.2]
      | some v =>
          rw [completeEach_cons_of_some hgiven, ih hname.2,
            Entries.get?_insert_of_ne (Ne.symm hname.1)]

/-- What a completed mapping has at a field. -/
theorem get?_completeEach (distinct : (rules.map (·.1)).Nodup) (mem : (name, rule) ∈ rules) :
    (completeEach rules entries).1.get? (.text name) =
      (rule.given name entries).map fun v => (rule.complete (.text name) v).1 := by
  induction rules generalizing entries with
  | nil => cases mem
  | cons field rules ih =>
      obtain ⟨other, otherRule⟩ := field
      rw [List.map_cons, List.nodup_cons] at distinct
      rcases List.mem_cons.1 mem with heq | mem
      · cases heq
        cases hgiven : rule.given name entries with
        | none =>
            rw [completeEach_cons_of_none hgiven, get?_completeEach_of_not_mem distinct.1]
            exact (Option.or_eq_none_iff.1 hgiven).1
        | some v =>
            rw [completeEach_cons_of_some hgiven, get?_completeEach_of_not_mem distinct.1]
            exact Entries.get?_insert _ _ (by simp) _
      · have hne : other ≠ name := by
          rintro rfl
          exact distinct.1 (List.mem_map.2 ⟨_, mem, rfl⟩)
        cases hgiven : otherRule.given other entries with
        | none => rw [completeEach_cons_of_none hgiven, ih distinct.2 mem]
        | some v =>
            rw [completeEach_cons_of_some hgiven, ih distinct.2 mem, Rule.given_insert_of_ne hne]

/-- What is found while a mapping is completed is found in its fields. -/
theorem mem_completeEach (distinct : (rules.map (·.1)).Nodup) {f : Finding} :
    f ∈ (completeEach rules entries).2 ↔
      ∃ field ∈ rules, ∃ v, field.2.given field.1 entries = some v ∧
        f ∈ (field.2.complete (.text field.1) v).2.map (·.under (.text field.1)) := by
  induction rules generalizing entries with
  | nil => simp [completeEach]
  | cons field rules ih =>
      obtain ⟨name, rule⟩ := field
      rw [List.map_cons, List.nodup_cons] at distinct
      have inserted (w : Value) : f ∈ (completeEach rules (entries.insert (.text name) w)).2 ↔
          ∃ field ∈ rules, ∃ v, field.2.given field.1 entries = some v ∧
            f ∈ (field.2.complete (.text field.1) v).2.map (·.under (.text field.1)) := by
        rw [ih distinct.2]
        refine exists_congr fun field => and_congr_right fun mem => ?_
        have hne : name ≠ field.1 := by
          rintro rfl
          exact distinct.1 (List.mem_map.2 ⟨_, mem, rfl⟩)
        rw [Rule.given_insert_of_ne hne]
      cases hgiven : rule.given name entries with
      | none => simp [completeEach_cons_of_none hgiven, ih distinct.2, hgiven]
      | some v =>
          rw [completeEach_cons_of_some hgiven, List.mem_append, inserted]
          simp [hgiven]

/-- What a mapping that was completed without a finding has at a field. -/
theorem completeEach_field (distinct : (rules.map (·.1)).Nodup)
    (h : completeEach rules entries = (completed, [])) (mem : (name, rule) ∈ rules) :
    (rule.given name entries = none ∧ completed.get? (.text name) = none) ∨
      ∃ v w, rule.given name entries = some v ∧ completed.get? (.text name) = some w ∧
        rule.Completes v w := by
  have hget : (completeEach rules entries).1.get? (.text name) =
      (rule.given name entries).map fun v => (rule.complete (.text name) v).1 :=
    get?_completeEach distinct mem
  rw [h] at hget
  cases hgiven : rule.given name entries with
  | none => exact Or.inl ⟨rfl, by rw [hget, hgiven, Option.map_none]⟩
  | some v =>
      refine Or.inr ⟨v, _, rfl, by rw [hget, hgiven, Option.map_some], ?_⟩
      refine Rule.completes_of_key (Prod.ext rfl (List.eq_nil_iff_forall_not_mem.2 fun f hf => ?_))
      have hfound : f.under (.text name) ∈ (completeEach rules entries).2 :=
        (mem_completeEach distinct).2 ⟨_, mem, v, hgiven, List.mem_map_of_mem hf⟩
      rw [h] at hfound
      cases hfound

/-- Completion takes no key away. -/
theorem mem_keys_completeEach (mem : key ∈ entries.keys) :
    key ∈ (completeEach rules entries).1.keys := by
  induction rules generalizing entries with
  | nil => rwa [completeEach]
  | cons field rules ih =>
      obtain ⟨name, rule⟩ := field
      cases hgiven : rule.given name entries with
      | none =>
          rw [completeEach_cons_of_none hgiven]
          exact ih mem
      | some v =>
          rw [completeEach_cons_of_some hgiven]
          exact ih (Entries.mem_keys_insert mem)

/-- The keys that completion adds are texts. -/
theorem mem_keys_of_completeEach (mem : key ∈ (completeEach rules entries).1.keys) :
    key ∈ entries.keys ∨ ∃ name, key = .text name := by
  induction rules generalizing entries with
  | nil =>
      rw [completeEach] at mem
      exact Or.inl mem
  | cons field rules ih =>
      obtain ⟨name, rule⟩ := field
      cases hgiven : rule.given name entries with
      | none =>
          rw [completeEach_cons_of_none hgiven] at mem
          exact ih mem
      | some v =>
          rw [completeEach_cons_of_some hgiven] at mem
          rcases ih mem with mem | htext
          · exact (Entries.mem_keys_of_insert mem).imp_right fun h => ⟨name, h⟩
          · exact Or.inr htext

/-- A mapping whose fields need no completion needs none itself. -/
theorem completeEach_of_settled
    (h : ∀ name rule, (name, rule) ∈ rules →
      (rule.given name entries = none) ∨
        ∃ v, entries.get? (.text name) = some v ∧ rule.Completes v v) :
    completeEach rules entries = (entries, []) := by
  induction rules with
  | nil => rw [completeEach]
  | cons field rules ih =>
      obtain ⟨name, rule⟩ := field
      have hrest := ih fun name rule mem => h name rule (List.mem_cons_of_mem _ mem)
      rcases h name rule List.mem_cons_self with hnone | ⟨v, hv, hsettled⟩
      · rw [completeEach_cons_of_none hnone, hrest]
      · have hgiven : rule.given name entries = some v := by rw [Rule.given, hv, Option.some_or]
        rw [completeEach_cons_of_some hgiven, hsettled, Entries.insert_of_get? hv, hrest]
        rfl

end

end

/-! ## Findings inside a value -/

section

variable {rule : Rule} {v : Value}

/-- What breaks the rules inside a value. -/
def Rule.findingsInside (rule : Rule) : Value → List Finding
  | .map entries =>
    keyFindings rule.keys entries ++ valueFindings rule.values entries
      ++ fieldFindings rule.fields entries
  | .list vs | .tuple vs => itemFindings rule.items vs
  | .bytes data => itemFindings rule.items (data.map fun b => .int b.toNat)
  | _ => []

theorem Rule.findings_eq_nil (h : rule.findings v = []) :
    (v = .null ∧ rule.nullable = true) ∨
      (v ≠ .null ∧ rule.sort.holds v = true ∧ rule.flaws v = [] ∧ rule.findingsInside v = []) := by
  cases hnull : v with
  | null =>
      subst hnull
      cases rule
      rw [Rule.findings] at h
      left
      split at h
      · next hnullable => exact ⟨rfl, hnullable⟩
      · cases h
  | _ =>
      right
      subst hnull
      refine ⟨nofun, ?_⟩
      cases rule
      rw [Rule.findings] at h
      · split at h
        · cases h
        · next hholds =>
            obtain ⟨hflaws, hinside⟩ := List.append_eq_nil_iff.1 h
            exact ⟨by simpa using hholds, hflaws, hinside⟩
      all_goals exact nofun

theorem findings_of_valueFindings {entries : Entries}
    (h : valueFindings (some rule) entries = []) {e : Value × Value} (mem : e ∈ entries) :
    rule.findings e.2 = [] := by
  rw [valueFindings, List.flatMap_eq_nil_iff] at h
  exact List.map_eq_nil_iff.1 (h e mem)

theorem findings_of_keyFindings {entries : Entries}
    (h : keyFindings (some rule) entries = []) {e : Value × Value} (mem : e ∈ entries) :
    rule.findings e.1 = [] := by
  rw [keyFindings, List.flatMap_eq_nil_iff] at h
  exact List.map_eq_nil_iff.1 (h e mem)

theorem findings_of_itemFindings {vs : List Value} (h : itemFindings (some rule) vs = [])
    (mem : v ∈ vs) : rule.findings v = [] := by
  rw [itemFindings, List.flatMap_eq_nil_iff] at h
  rw [← List.zipIdx_map_fst 0 vs] at mem
  obtain ⟨⟨v, i⟩, hindexed, rfl⟩ := List.mem_map.1 mem
  exact List.map_eq_nil_iff.1 (h _ hindexed)

theorem findings_of_fieldFindings {rules : List (String × Rule)} {entries : Entries}
    (h : fieldFindings (some rules) entries = []) {name : String} (mem : (name, rule) ∈ rules) :
    (∀ v, entries.get? (.text name) = some v → rule.findings v = []) ∧
      (entries.get? (.text name) = none → rule.required = false) := by
  rw [fieldFindings] at h
  replace h := (List.append_eq_nil_iff.1 h).2
  induction rules with
  | nil => cases mem
  | cons field rules ih =>
      obtain ⟨other, otherRule⟩ := field
      rw [findingsOfEach, List.append_eq_nil_iff, List.map_eq_nil_iff] at h
      rcases List.mem_cons.1 mem with heq | mem
      · cases heq
        constructor
        · intro v hv
          simpa [hv] using h.1
        · intro hnone
          simpa [hnone] using h.1
      · exact ih mem h.2

end

/-- A mapping whose fields have rules has no other keys than the names of these. -/
theorem known_of_fieldFindings {rules : List (String × Rule)} {entries : Entries}
    (h : fieldFindings (some rules) entries = []) {key : Value} (mem : key ∈ entries.keys) :
    ∃ name ∈ rules.map (·.1), key = .text name := by
  rw [fieldFindings] at h
  obtain ⟨hunknown, -⟩ := List.append_eq_nil_iff.1 h
  obtain ⟨⟨key, v⟩, hmem, rfl⟩ := List.mem_map.1 mem
  have := List.filter_eq_nil_iff.1 (List.map_eq_nil_iff.1 hunknown) _ hmem
  cases key with
  | text name =>
      refine ⟨name, ?_, rfl⟩
      by_contra hname
      refine this (Option.isNone_iff_eq_none.2 (List.lookup_eq_none_iff.2 ?_))
      rintro ⟨other, rule⟩ hrule
      simpa using fun heq : name = other => hname (List.mem_map.2 ⟨_, hrule, heq.symm⟩)
  | _ => simp at this

/-! ## Acceptance -/

/-- A rule accepts a value as what it makes of it, without a finding on the way or in the
end. -/
structure Rule.Accepts (rule : Rule) (given accepted : Value) : Prop where
  completes : rule.Completes given accepted
  sound : rule.findings accepted = []

section

variable {rule : Rule} {key v w : Value}

theorem Rule.validate_eq_nil_iff : rule.validate key v = (w, []) ↔ rule.Accepts v w := by
  constructor
  · intro h
    obtain ⟨hw, hfound⟩ := Prod.mk.inj h
    obtain ⟨hfound, hsound⟩ := List.append_eq_nil_iff.1 (List.map_eq_nil_iff.1 hfound)
    exact ⟨Rule.completes_of_key (Prod.ext hw hfound), hw ▸ hsound⟩
  · rintro ⟨hcompletes, hsound⟩
    rw [Rule.validate, hcompletes]
    simp [hsound]

theorem Rule.Accepts.cases (h : rule.Accepts v w) :
    (w = .null ∧ rule.nullable = true) ∨
      (w ≠ .null ∧ rule.sort.holds w = true ∧ rule.flaws w = [] ∧ rule.findingsInside w = []) :=
  Rule.findings_eq_nil h.sound

/-! ### Stability -/

/-- A rule is stable if it accepts what it made of a value as it is. -/
def Rule.Stable (rule : Rule) : Prop := ∀ ⦃v w⦄, rule.Accepts v w → rule.Accepts w w

/-- An accepted value is neither replaced nor converted again. -/
theorem Rule.Accepts.start_accepted (h : rule.Accepts v w) (key : Value) :
    rule.start key w = (w, []) := by
  have hsubstitute : rule.substitute w = w := by
    rcases h.cases with ⟨-, hnullable⟩ | ⟨hnull, -⟩
    · exact Rule.substitute_of_nullable hnullable
    · exact Rule.substitute_of_ne_null hnull
  rw [Rule.start, hsubstitute]
  obtain ⟨u, hstart, hinside⟩ := Rule.complete_eq_nil_iff.1 (h.completes key)
  rcases Rule.convert_eq_nil hstart with ⟨htext, rfl⟩ | ⟨htext, hnull, -⟩
  · -- a text has nothing inside and is its own text
    cases hinside
    exact Rule.convert_text htext _
  · refine Rule.convert_of_ne_null htext (hnull.imp_right fun hu => ?_)
    rintro rfl
    cases u with
    | null => exact hu rfl
    | _ => cases hinside

end

/-! ### What is inside what is accepted -/

section

variable {rule : Rule} {v w : Value}

theorem exists_left_of_mem {α β : Type} {related : α → β → Prop} {as : List α} {bs : List β}
    (h : List.Forall₂ related as bs) {b : β} (mem : b ∈ bs) : ∃ a ∈ as, related a b := by
  induction h with
  | nil => cases mem
  | @cons a b' as bs hab _ ih =>
      rcases List.mem_cons.1 mem with rfl | mem
      · exact ⟨a, List.mem_cons_self, hab⟩
      · obtain ⟨a', hmem, ha'⟩ := ih mem
        exact ⟨a', List.mem_cons_of_mem _ hmem, ha'⟩

theorem forall₂_and_right {α β : Type} {related : α → β → Prop} {p : β → Prop} {as : List α}
    {bs : List β} (h : List.Forall₂ related as bs) (hp : ∀ b ∈ bs, p b) :
    List.Forall₂ (fun a b => related a b ∧ p b) as bs := by
  induction h with
  | nil => exact .nil
  | cons hab _ ih =>
      exact .cons ⟨hab, hp _ List.mem_cons_self⟩ (ih fun b mem => hp b (List.mem_cons_of_mem _ mem))

theorem accepts_of_values {entries completed : Entries}
    (h : completeValues (some rule) entries = (completed, []))
    (hfound : valueFindings (some rule) completed = []) :
    List.Forall₂ (fun e e' => e'.1 = e.1 ∧ rule.Accepts e.2 e'.2) entries completed :=
  (forall₂_and_right (completeValues_eq_nil_iff.1 h) fun _ mem =>
    findings_of_valueFindings hfound mem).imp
    fun _ _ h => ⟨h.1.1, h.1.2, h.2⟩

theorem accepts_of_items {vs completed : List Value}
    (h : completeItems (some rule) 0 vs = (completed, []))
    (hfound : itemFindings (some rule) completed = []) :
    List.Forall₂ rule.Accepts vs completed :=
  (forall₂_and_right (completeItems_eq_nil_iff.1 h) fun _ mem =>
    findings_of_itemFindings hfound mem).imp
    fun _ _ h => ⟨h.1, h.2⟩

/-- A field of an accepted mapping: nothing where there is no default, and else what its
rule made of what stood there or of the default. -/
theorem accepts_of_field {rules : List (String × Rule)} {entries completed : Entries}
    (distinct : (rules.map (·.1)).Nodup) (h : completeEach rules entries = (completed, []))
    (hfound : fieldFindings (some rules) completed = [])
    {name : String} (mem : (name, rule) ∈ rules) :
    (rule.given name entries = none ∧ completed.get? (.text name) = none) ∨
      ∃ v w, rule.given name entries = some v ∧ completed.get? (.text name) = some w ∧
        rule.Accepts v w := by
  rcases completeEach_field distinct h mem with hnone | ⟨v, w, hv, hw, hcompletes⟩
  · exact Or.inl hnone
  · exact Or.inr ⟨v, w, hv, hw, hcompletes, (findings_of_fieldFindings hfound mem).1 w hw⟩

/-- What is inside a completed value needs no completion, if the rules inside are stable. -/
theorem Rule.inside_settled
    (values : ∀ r, rule.values = some r → r.Stable ∧ rule.fields = none)
    (items : ∀ r, rule.items = some r → r.Stable)
    (fields : ∀ rs, rule.fields = some rs →
      (rs.map (·.1)).Nodup ∧ ∀ field ∈ rs, field.2.Stable)
    (h : rule.inside v = (w, [])) (hfound : rule.findingsInside w = []) :
    rule.inside w = (w, []) := by
  have settled_items {vs ws : List Value} (h : completeItems rule.items 0 vs = (ws, []))
      (hfound : itemFindings rule.items ws = []) :
      completeItems rule.items 0 ws = (ws, []) := by
    cases hr : rule.items with
    | none => rw [completeItems]
    | some r =>
        rw [hr] at h hfound
        refine completeItems_eq_nil_iff.2 (List.forall₂_same.2 fun w mem => ?_)
        obtain ⟨v, -, haccepts⟩ := exists_left_of_mem (accepts_of_items h hfound) mem
        exact (items r hr haccepts).completes
  cases v with
  | map entries =>
      obtain ⟨entries₁, entries₂, hvalues, hfields, rfl⟩ := Rule.inside_map_eq_nil_iff.1 h
      obtain ⟨hfound, hfieldsFound⟩ := List.append_eq_nil_iff.1 hfound
      have hvaluesFound := (List.append_eq_nil_iff.1 hfound).2
      refine Rule.inside_map_eq_nil_iff.2 ⟨entries₂, entries₂, ?_, ?_, rfl⟩
      · cases hr : rule.values with
        | none => rw [completeValues]
        | some r =>
            obtain ⟨stable, hnone⟩ := values r hr
            -- fields come after values, and would change them again if there were any
            rw [hr] at hvalues hvaluesFound
            rw [hnone, completeFields] at hfields
            cases hfields
            refine completeValues_eq_nil_iff.2 (List.forall₂_same.2 fun e mem => ⟨rfl, ?_⟩)
            obtain ⟨e', -, -, haccepts⟩ :=
              exists_left_of_mem (accepts_of_values hvalues hvaluesFound) mem
            exact (stable haccepts).completes
      · cases hrs : rule.fields with
        | none => rw [completeFields]
        | some rs =>
            obtain ⟨distinct, stable⟩ := fields rs hrs
            rw [hrs] at hfields hfieldsFound
            rw [completeFields] at hfields ⊢
            refine completeEach_of_settled fun name r mem => ?_
            rcases accepts_of_field distinct hfields hfieldsFound mem with
              ⟨hnone, hget⟩ | ⟨v, w, -, hget, haccepts⟩
            · left
              rw [Rule.given, hget]
              exact (Option.or_eq_none_iff.1 hnone).2
            · exact Or.inr ⟨w, hget, (stable (name, r) mem haccepts).completes⟩
  | list vs =>
      obtain ⟨ws, hitems, rfl⟩ := Rule.inside_list_eq_nil_iff.1 h
      exact Rule.inside_list_eq_nil_iff.2 ⟨ws, settled_items hitems hfound, rfl⟩
  | tuple vs =>
      obtain ⟨ws, hitems, rfl⟩ := Rule.inside_tuple_eq_nil_iff.1 h
      exact Rule.inside_tuple_eq_nil_iff.2 ⟨ws, settled_items hitems hfound, rfl⟩
  | _ =>
      cases h
      rfl

theorem Rule.stable_of_parts
    (values : ∀ r, rule.values = some r → r.Stable ∧ rule.fields = none)
    (items : ∀ r, rule.items = some r → r.Stable)
    (fields : ∀ rs, rule.fields = some rs →
      (rs.map (·.1)).Nodup ∧ ∀ field ∈ rs, field.2.Stable) : rule.Stable := by
  refine fun v w h => ⟨fun key => ?_, h.sound⟩
  refine Rule.complete_eq_nil_iff.2 ⟨w, h.start_accepted key, ?_⟩
  rcases h.cases with ⟨rfl, -⟩ | ⟨-, -, -, hinside⟩
  · rfl
  · obtain ⟨u, -, hu⟩ := Rule.complete_eq_nil_iff.1 (h.completes key)
    exact Rule.inside_settled values items fields hu hinside

/-! ### Confusion -/

/-- A rule is clear if nothing in a value that follows it is taken for a rule. -/
def Rule.Clear (rule : Rule) : Prop := ∀ ⦃v⦄, rule.findings v = [] → rule.isConfusedBy v = false

theorem itemConfuses_of_clear (clear : rule.Clear) {vs : List Value}
    (h : itemFindings (some rule) vs = []) : itemConfuses (some rule) vs = false := by
  rw [itemConfuses, List.any_eq_false]
  intro v mem
  simpa using clear (findings_of_itemFindings h mem)

theorem valueConfuses_of_clear (clear : rule.Clear) {entries : Entries}
    (h : valueFindings (some rule) entries = []) : valueConfuses (some rule) entries = false := by
  rw [valueConfuses, List.any_eq_false]
  rintro ⟨k, v⟩ mem
  simpa using clear (findings_of_valueFindings h mem)

theorem eachConfuses_of_clear {rules : List (String × Rule)} {entries : Entries}
    (h : ∀ name r, (name, r) ∈ rules → r.Clear ∧
      ∀ v, entries.get? (.text name) = some v → r.findings v = []) :
    eachConfuses rules entries = false := by
  induction rules with
  | nil => rw [eachConfuses]
  | cons field rules ih =>
      obtain ⟨name, r⟩ := field
      have hrest := ih fun name r mem => h name r (List.mem_cons_of_mem _ mem)
      obtain ⟨clear, hfound⟩ := h name r List.mem_cons_self
      rw [eachConfuses, hrest, Bool.or_false]
      cases hv : entries.get? (.text name) with
      | none => rfl
      | some v => simpa using clear (hfound v hv)

/-- Only mappings in the place of lists can be taken for rules, and those do not follow the
rule of the list. -/
theorem Rule.clear_of_parts (values : ∀ r, rule.values = some r → r.Clear)
    (items : ∀ r, rule.items = some r → r.Clear ∧ rule.sort = .list)
    (fields : ∀ rs, rule.fields = some rs → ∀ field ∈ rs, field.2.Clear) :
    rule.Clear := by
  intro v h
  rcases Rule.findings_eq_nil h with ⟨rfl, -⟩ | ⟨-, hholds, -, hinside⟩
  · cases rule
    rfl
  · have clear_items {vs : List Value} (h : itemFindings rule.items vs = []) :
        itemConfuses rule.items vs = false := by
      cases hr : rule.items with
      | none => rw [itemConfuses]
      | some r => exact itemConfuses_of_clear (items r hr).1 (hr ▸ h)
    cases v with
    | map entries =>
        obtain ⟨hinside, hfields⟩ := List.append_eq_nil_iff.1 hinside
        have hvalues := (List.append_eq_nil_iff.1 hinside).2
        have noItems : rule.items = none := by
          cases hr : rule.items with
          | none => rfl
          | some r =>
              rw [(items r hr).2] at hholds
              cases hholds
        have clear_values : valueConfuses rule.values entries = false := by
          cases hr : rule.values with
          | none => rw [valueConfuses]
          | some r => exact valueConfuses_of_clear (values r hr) (hr ▸ hvalues)
        have clear_fields : fieldConfuses rule.fields entries = false := by
          cases hrs : rule.fields with
          | none => rw [fieldConfuses]
          | some rs =>
              rw [fieldConfuses]
              refine eachConfuses_of_clear fun name r mem => ⟨fields rs hrs (name, r) mem, ?_⟩
              exact (findings_of_fieldFindings (hrs ▸ hfields) mem).1
        cases rule
        subst noItems
        rw [Rule.isConfusedBy, clear_values, clear_fields]
        rfl
    | list vs | tuple vs =>
        have := clear_items hinside
        cases rule
        rwa [Rule.isConfusedBy]
    | _ =>
        cases rule
        rfl

/-! ### Both together -/

/-- Validating anew what a settled rule accepted changes and confuses nothing. -/
structure Rule.Settled (rule : Rule) : Prop where
  stable : rule.Stable
  clear : rule.Clear

theorem Rule.settled_of_parts
    (values : ∀ r, rule.values = some r → r.Settled ∧ rule.fields = none)
    (items : ∀ r, rule.items = some r → r.Settled ∧ rule.sort = .list)
    (fields : ∀ rs, rule.fields = some rs →
      (rs.map (·.1)).Nodup ∧ ∀ field ∈ rs, field.2.Settled) : rule.Settled where
  stable := Rule.stable_of_parts (fun r hr => ⟨(values r hr).1.stable, (values r hr).2⟩)
    (fun r hr => (items r hr).1.stable)
    fun rs hrs => ⟨(fields rs hrs).1, fun field mem => ((fields rs hrs).2 field mem).stable⟩
  clear := Rule.clear_of_parts (fun r hr => (values r hr).1.clear)
    (fun r hr => ⟨(items r hr).1.clear, (items r hr).2⟩)
    fun rs hrs field mem => ((fields rs hrs).2 field mem).clear

end

end ImagePreload.Config
