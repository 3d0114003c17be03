import ImagePreload.Proofs.HiddenFindings

/-!
# What in a document cannot be checked, told or written

A document may hold three things that end its loading though no fault of the configuration is
told. A mapping in the place of a list is taken for a rule if one of its keys is the name of a
constraint (`Mistaken`). What breaks the rules behind a key that cannot be written cannot be
told (`Unwritable`). And an integer that cannot be written may stand in what follows the
rules.

Each is said of the document: which of its mappings, which keys in them, which integers. That
the rules of configurations come to the same follows from their shape
(`schema_confusedWhen`, `schema_hidesWhen`, `schema_keepsLength`). Where a rule takes a mapping
for a rule, it stands in the place of a list (`Rule.IsSequence.confusedWhen`). And completion
adds no integer that is too long and leaves none out, for what becomes a text has one
(`Rule.keepsLength_of_parts`).
-/

namespace ImagePreload.Config

/-! ## Mappings taken for rules -/

/-- A rule takes a mapping for a rule in the values with a certain property, and in no
others. -/
def Rule.ConfusedWhen (rule : Rule) (P : Value → Prop) : Prop :=
  ∀ v, rule.isConfusedBy v = true ↔ P v

/-- A mapping with one of some names among its keys. -/
def HasKeyOf (names : List String) (v : Value) : Prop :=
  ∃ entries : Entries, v = .map entries ∧ ∃ name ∈ names, .text name ∈ entries.keys

section

variable {rule : Rule} {v w : Value} {P Q : Value → Prop}

theorem Rule.ConfusedWhen.congr (h : rule.ConfusedWhen P) (hiff : ∀ v, P v ↔ Q v) :
    rule.ConfusedWhen Q :=
  fun v => (h v).trans (hiff v)

theorem Rule.IsLeaf.confusedWhen (leaf : rule.IsLeaf) : rule.ConfusedWhen fun _ => False := by
  obtain ⟨hvalues, hitems, hfields⟩ := leaf
  intro v
  cases rule
  cases hvalues
  cases hitems
  cases hfields
  cases v <;> simp [Rule.isConfusedBy, valueConfuses, fieldConfuses, itemConfuses]

theorem labelsRule_confusedWhen : labelsRule.ConfusedWhen fun _ => False := by
  have leaf : Rule.IsLeaf { sort := .text, conversion := some .toText } := ⟨rfl, rfl, rfl⟩
  intro v
  cases v with
  | map entries =>
      rw [labelsRule, Rule.isConfusedBy, valueConfuses, fieldConfuses]
      simp only [Bool.or_false, List.any_eq_true, leaf.confusedWhen _, and_false, exists_false]
  | _ => simp [labelsRule, Rule.isConfusedBy, itemConfuses]

theorem Rule.IsSequence.confusedWhen {r : Rule} (sequence : rule.IsSequence r)
    (items : r.ConfusedWhen P) :
    rule.ConfusedWhen fun v => HasKeyOf r.plainConstraints v ∨ ∃ item ∈ v.members, P item := by
  intro v
  obtain ⟨-, -, -, -, hvalues, hitems, hfields⟩ := sequence
  cases rule
  cases hvalues
  cases hitems
  cases hfields
  cases v with
  | map entries =>
      simp [Rule.isConfusedBy, valueConfuses, fieldConfuses, Value.members, HasKeyOf,
        Entries.contains_text_iff]
  | list vs | tuple vs =>
      simp [Rule.isConfusedBy, itemConfuses, Value.members, HasKeyOf, items _]
  | bytes data =>
      have number (b : UInt8) : ¬ P (.int b.toNat) := by
        rw [← items]
        cases r
        simp [Rule.isConfusedBy]
      simp [Rule.isConfusedBy, Value.members, HasKeyOf, number]
  | _ => simp [Rule.isConfusedBy, Value.members, HasKeyOf]

theorem eachConfuses_iff {rules : List (String × Rule)} {entries : Entries} :
    eachConfuses rules entries = true ↔
      ∃ field ∈ rules, ∃ w, entries.get? (.text field.1) = some w ∧
        field.2.isConfusedBy w = true := by
  induction rules with
  | nil => simp [eachConfuses]
  | cons field rules ih =>
      obtain ⟨name, r⟩ := field
      rw [eachConfuses, Bool.or_eq_true, ih, Option.any_eq_true]
      simp

theorem Rule.IsRecord.confusedWhen {rules : List (String × Rule)} {P : String → Value → Prop}
    (record : rule.IsRecord rules) (fields : ∀ field ∈ rules, field.2.ConfusedWhen (P field.1)) :
    rule.ConfusedWhen fun v =>
      ∃ name ∈ rules.map (·.1), ∃ w, v.field? name = some w ∧ P name w := by
  intro v
  simp only [List.mem_map, exists_exists_and_eq_and]
  obtain ⟨-, -, -, -, -, hvalues, hitems, hfields, -⟩ := record
  cases rule
  cases hvalues
  cases hitems
  cases hfields
  cases v with
  | map entries =>
      rw [Rule.isConfusedBy, valueConfuses, fieldConfuses]
      simp only [Bool.false_or, Bool.or_false, eachConfuses_iff]
      refine exists_congr fun field => and_congr_right fun mem => ?_
      simp only [fields field mem _, Value.field?]
  | _ => simp [Rule.isConfusedBy, itemConfuses, Value.field?]

/-! ## Integers that cannot be written -/

/-- A rule leaves integers that cannot be written as they are, and adds none. -/
structure Rule.KeepsLength (rule : Rule) : Prop where
  default : rule.default.all (fun d => !d.isTooLong) = true
  completes : ∀ ⦃v w⦄, rule.Completes v w → w.isTooLong = v.isTooLong

theorem anyTooLong_of_forall₂ {vs ws : List Value}
    (h : List.Forall₂ (fun v w => w.isTooLong = v.isTooLong) vs ws) :
    Value.anyTooLong ws = Value.anyTooLong vs := by
  induction h with
  | nil => rfl
  | cons hvw _ ih => rw [Value.anyTooLong, Value.anyTooLong, hvw, ih]

theorem anyEntryTooLong_of_forall₂ {entries completed : Entries}
    (h : List.Forall₂ (fun e e' => e'.1 = e.1 ∧ e'.2.isTooLong = e.2.isTooLong)
      entries completed) :
    Value.anyEntryTooLong completed = Value.anyEntryTooLong entries := by
  induction h with
  | nil => rfl
  | @cons e e' _ _ hentry _ ih =>
      obtain ⟨k, v⟩ := e
      obtain ⟨k', w⟩ := e'
      obtain ⟨rfl, hvw⟩ := hentry
      rw [Value.anyEntryTooLong, Value.anyEntryTooLong, ih]
      dsimp only at hvw ⊢
      rw [hvw]

/-- What is put under the name of a field makes nothing too long or short, if it is as long
as what stood there. -/
theorem anyEntryTooLong_insert {name : String} {entries : Entries}
    (h : w.isTooLong = ((entries.get? (.text name)).any Value.isTooLong)) :
    Value.anyEntryTooLong (entries.insert (.text name) w) = Value.anyEntryTooLong entries := by
  induction entries with
  | nil =>
      have hw : w.isTooLong = false := h
      simp [Entries.insert, Value.anyEntryTooLong, hw, Value.isTooLong]
  | cons e entries ih =>
      obtain ⟨k, v⟩ := e
      rw [Entries.get?] at h
      rw [Entries.insert]
      split at h
      · next hsame =>
          rw [if_pos hsame, Value.anyEntryTooLong, Value.anyEntryTooLong, h]
          rfl
      · next hsame => rw [if_neg hsame, Value.anyEntryTooLong, Value.anyEntryTooLong, ih h]

theorem Rule.isTooLong_of_convert {key u : Value} (h : rule.convert key u = (w, [])) :
    w.isTooLong = u.isTooLong := by
  unfold Rule.convert at h
  cases hc : rule.conversion with
  | none =>
      rw [hc] at h
      cases h
      rfl
  | some conversion =>
      simp only [hc] at h
      cases conversion with
      | toText =>
          rw [Conversion.apply] at h
          cases hlong : u.isTooLong with
          | true => cases u <;> simp_all [Value.isTooLong]
          | false =>
              simp only [hlong] at h
              cases h
              rfl
      | toMapping | toList =>
          cases u <;> cases h <;> rfl

theorem Rule.isTooLong_of_start (default : rule.default.all (fun d => !d.isTooLong) = true)
    {key : Value} (h : rule.start key v = (w, [])) : w.isTooLong = v.isTooLong := by
  rw [Rule.isTooLong_of_convert h]
  unfold Rule.substitute
  split
  · next d hd =>
      split
      · rfl
      · rw [hd] at default
        simpa [Value.isTooLong] using default
  · rfl

theorem anyEntryTooLong_completeEach {rules : List (String × Rule)} {entries completed : Entries}
    (h : completeEach rules entries = (completed, []))
    (fields : ∀ field ∈ rules, field.2.KeepsLength) :
    Value.anyEntryTooLong completed = Value.anyEntryTooLong entries := by
  induction rules generalizing entries with
  | nil =>
      rw [completeEach] at h
      cases h
      rfl
  | cons field rules ih =>
      obtain ⟨name, r⟩ := field
      obtain ⟨keeps, fields⟩ := List.forall_mem_cons.1 fields
      cases hgiven : r.given name entries with
      | none => exact ih (completeEach_cons_of_none hgiven ▸ h) fields
      | some v =>
          rw [completeEach_cons_of_some hgiven] at h
          obtain ⟨hcompleted, hfound⟩ := Prod.mk.inj h
          obtain ⟨hfound, hrest⟩ := List.append_eq_nil_iff.1 hfound
          have hvw := keeps.completes
            (Rule.completes_of_key (Prod.ext rfl (List.map_eq_nil_iff.1 hfound)))
          rw [ih (Prod.ext hcompleted hrest) fields]
          refine anyEntryTooLong_insert ?_
          rw [hvw]
          rcases Option.or_eq_some_iff.1 hgiven with hget | ⟨hget, hdefault⟩
          · rw [hget]
            rfl
          · have hd := keeps.default
            rw [hdefault] at hd
            rw [hget]
            simpa using hd

/-- A rule leaves integers as they are if the rules inside it do. -/
theorem Rule.keepsLength_of_parts (default : rule.default.all (fun d => !d.isTooLong) = true)
    (values : ∀ r, rule.values = some r → r.KeepsLength)
    (items : ∀ r, rule.items = some r → r.KeepsLength)
    (fields : ∀ rs, rule.fields = some rs → ∀ field ∈ rs, field.2.KeepsLength) :
    rule.KeepsLength := by
  refine ⟨default, fun v w h => ?_⟩
  obtain ⟨u, hstart, hinside⟩ := Rule.complete_eq_nil_iff.1 (h .null)
  rw [← Rule.isTooLong_of_start default hstart]
  have kept_items {vs ws : List Value} (h : completeItems rule.items 0 vs = (ws, [])) :
      Value.anyTooLong ws = Value.anyTooLong vs := by
    cases hr : rule.items with
    | none =>
        rw [hr, completeItems] at h
        cases h
        rfl
    | some r =>
        rw [hr] at h
        exact anyTooLong_of_forall₂
          ((completeItems_eq_nil_iff.1 h).imp fun _ _ h => (items r hr).completes h)
  cases u with
  | map entries =>
      obtain ⟨entries₁, entries₂, hvalues, hfields, rfl⟩ := Rule.inside_map_eq_nil_iff.1 hinside
      have kept_values : Value.anyEntryTooLong entries₁ = Value.anyEntryTooLong entries := by
        cases hr : rule.values with
        | none =>
            rw [hr, completeValues] at hvalues
            cases hvalues
            rfl
        | some r =>
            rw [hr] at hvalues
            exact anyEntryTooLong_of_forall₂ ((completeValues_eq_nil_iff.1 hvalues).imp
              fun _ _ h => ⟨h.1, (values r hr).completes h.2⟩)
      have kept_fields : Value.anyEntryTooLong entries₂ = Value.anyEntryTooLong entries₁ := by
        cases hrs : rule.fields with
        | none =>
            rw [hrs, completeFields] at hfields
            cases hfields
            rfl
        | some rs =>
            rw [hrs, completeFields] at hfields
            exact anyEntryTooLong_completeEach hfields (fields rs hrs)
      rw [Value.isTooLong, Value.isTooLong, kept_fields, kept_values]
  | list vs =>
      obtain ⟨ws, hitems, rfl⟩ := Rule.inside_list_eq_nil_iff.1 hinside
      rw [Value.isTooLong, Value.isTooLong, kept_items hitems]
  | tuple vs =>
      obtain ⟨ws, hitems, rfl⟩ := Rule.inside_tuple_eq_nil_iff.1 hinside
      rw [Value.isTooLong, Value.isTooLong, kept_items hitems]
  | _ =>
      cases hinside
      rfl

theorem Rule.IsLeaf.keepsLength (leaf : rule.IsLeaf)
    (default : rule.default.all (fun d => !d.isTooLong) = true) : rule.KeepsLength := by
  refine Rule.keepsLength_of_parts default ?_ ?_ ?_
  · simp [leaf.values]
  · simp [leaf.items]
  · simp [leaf.fields]

theorem Rule.IsSequence.keepsLength {r : Rule} (sequence : rule.IsSequence r)
    (default : rule.default.all (fun d => !d.isTooLong) = true) (items : r.KeepsLength) :
    rule.KeepsLength := by
  refine Rule.keepsLength_of_parts default ?_ ?_ ?_
  · simp [sequence.values]
  · simpa [sequence.items] using items
  · simp [sequence.fields]

theorem Rule.IsRecord.keepsLength {rules : List (String × Rule)}
    (record : rule.IsRecord rules) (fields : ∀ field ∈ rules, field.2.KeepsLength) :
    rule.KeepsLength := by
  refine Rule.keepsLength_of_parts ?_ ?_ ?_ ?_
  · simp [record.default]
  · simp [record.values]
  · simp [record.items]
  · simpa [record.fields] using fields

end

/-! ## Documents -/

/-- One of the jobs of a document. -/
def IsJobOf (document job : Value) : Prop :=
  ∃ jobs, document.field? "jobs" = some jobs ∧ job ∈ jobs.members

/-- In the place of a list of a job stands a mapping that is taken for a rule. -/
inductive JobMistaken (job : Value) : Prop
  | templates {templates : Value} (stated : job.field? "functionTemplates" = some templates)
    (taken : HasKeyOf ["type", "empty"] templates)
  | objects {objects : Value} (stated : job.field? "objects" = some objects)
    (taken : HasKeyOf ["type"] objects)

/-- In the place of a list stands a mapping one of whose keys is the name of a constraint on
the items of the list. -/
inductive Mistaken (document : Value) : Prop
  | jobs {jobs : Value} (stated : document.field? "jobs" = some jobs)
    (taken : HasKeyOf ["type"] jobs)
  | job {job : Value} (mem : IsJobOf document job) (mistaken : JobMistaken job)

/-- The way to something that breaks the rules of a job cannot be written. -/
inductive JobUnwritable (job : Value) : Prop
  | key (long : HasLongKey job)
  | labels {name : String} {labels : Value}
    (name_mem : name ∈ ["preLoadNodeLabels", "namespaceLabels", "namespaceAnnotations"])
    (stated : job.field? name = some labels) (long : HasLongKey labels)
  | template {templates : Value} (stated : job.field? "functionTemplates" = some templates)
    (far : FarOff nameRule templates)
  | objectKey {objects object : Value} (stated : job.field? "objects" = some objects)
    (mem : object ∈ objects.members) (long : HasLongKey object)
  | object {objects : Value} (stated : job.field? "objects" = some objects)
    (far : FarOff objectRule objects)

/-- The way to something that breaks the rules cannot be written: it leads to a key with too
many digits, or to an item at a position with too many. -/
inductive Unwritable (document : Value) : Prop
  | key (long : HasLongKey document)
  | inJob {job : Value} (mem : IsJobOf document job) (unwritable : JobUnwritable job)
  | job {jobs : Value} (stated : document.field? "jobs" = some jobs) (far : FarOff jobRule jobs)

theorem nameRule_leaf : nameRule.IsLeaf :=
  ⟨rfl, rfl, rfl⟩

theorem functionTemplates_sequence : (listRule nameRule).IsSequence nameRule :=
  ⟨rfl, rfl, rfl, fun _ => Or.inr rfl, rfl, rfl, rfl⟩

theorem objects_sequence : (listRule objectRule).IsSequence objectRule :=
  ⟨rfl, rfl, rfl, fun _ => Or.inr rfl, rfl, rfl, rfl⟩

theorem jobs_sequence : jobsRule.IsSequence jobRule :=
  ⟨rfl, rfl, rfl, fun _ => Or.inl rfl, rfl, rfl, rfl⟩

/-! ### What is taken for a rule -/

theorem objectRule_confusedWhen : objectRule.ConfusedWhen fun _ => False := by
  refine Rule.ConfusedWhen.congr (objectRule_record.confusedWhen (P := fun _ _ => False) ?_) ?_
  · simp only [objectFields, List.forall_mem_cons]
    refine ⟨?_, ?_, ?_, List.forall_mem_nil _⟩
    all_goals exact Rule.IsLeaf.confusedWhen ⟨rfl, rfl, rfl⟩
  · simp

/-- What is taken for a rule in a field of a job. -/
def JobMistakes (name : String) (v : Value) : Prop :=
  (name = "functionTemplates" ∧ HasKeyOf ["type", "empty"] v) ∨
    (name = "objects" ∧ HasKeyOf ["type"] v)

theorem jobRule_confusedWhen : jobRule.ConfusedWhen JobMistaken := by
  have leaf {rule : Rule} (leaf : rule.IsLeaf) : rule.ConfusedWhen fun _ => False :=
    leaf.confusedWhen
  have templates := functionTemplates_sequence.confusedWhen nameRule_leaf.confusedWhen
  have objects := objects_sequence.confusedWhen objectRule_confusedWhen
  refine Rule.ConfusedWhen.congr (jobRule_record.confusedWhen (P := JobMistakes) ?_) fun job => ?_
  · simp only [jobFields, List.forall_mem_cons]
    refine ⟨(leaf ⟨rfl, rfl, rfl⟩).congr ?_, (leaf ⟨rfl, rfl, rfl⟩).congr ?_,
      (leaf ⟨rfl, rfl, rfl⟩).congr ?_, (leaf ⟨rfl, rfl, rfl⟩).congr ?_,
      labelsRule_confusedWhen.congr ?_, labelsRule_confusedWhen.congr ?_,
      labelsRule_confusedWhen.congr ?_, templates.congr ?_, objects.congr ?_,
      List.forall_mem_nil _⟩
    all_goals simp [JobMistakes, Rule.plainConstraints, nameRule, objectRule]
  · constructor
    · rintro ⟨_, -, w, hw, ⟨hname, h⟩ | ⟨hname, h⟩⟩
      · exact .templates (hname ▸ hw) h
      · exact .objects (hname ▸ hw) h
    · rintro (⟨hw, h⟩ | ⟨hw, h⟩)
      · exact ⟨"functionTemplates", by decide, _, hw, Or.inl ⟨rfl, h⟩⟩
      · exact ⟨"objects", by decide, _, hw, Or.inr ⟨rfl, h⟩⟩

theorem schema_confusedWhen : schema.ConfusedWhen Mistaken := by
  have leaf {rule : Rule} (leaf : rule.IsLeaf) : rule.ConfusedWhen fun _ => False :=
    leaf.confusedWhen
  have jobs := jobs_sequence.confusedWhen jobRule_confusedWhen
  refine Rule.ConfusedWhen.congr (schema_record.confusedWhen (P := fun name v => name = "jobs" ∧
    (HasKeyOf ["type"] v ∨ ∃ job ∈ v.members, JobMistaken job)) ?_) fun document => ?_
  · simp only [configurationFields, List.forall_mem_cons]
    refine ⟨(leaf ⟨rfl, rfl, rfl⟩).congr ?_, (leaf ⟨rfl, rfl, rfl⟩).congr ?_,
      (leaf ⟨rfl, rfl, rfl⟩).congr ?_, (leaf ⟨rfl, rfl, rfl⟩).congr ?_, jobs.congr ?_,
      List.forall_mem_nil _⟩
    all_goals simp [Rule.plainConstraints, versionKey, jobRule]
  · constructor
    · rintro ⟨_, -, w, hw, hname, h | ⟨job, mem, h⟩⟩
      · exact .jobs (hname ▸ hw) h
      · exact .job ⟨w, hname ▸ hw, mem⟩ h
    · rintro (⟨hw, h⟩ | ⟨⟨jobs, hw, mem⟩, h⟩)
      · exact ⟨"jobs", by decide, _, hw, rfl, Or.inl h⟩
      · exact ⟨"jobs", by decide, _, hw, rfl, Or.inr ⟨_, mem, h⟩⟩

/-! ### What cannot be told -/

theorem not_hasLongKey_empty : ¬ HasLongKey (.map []) := by
  simp [hasLongKey_map_iff]

theorem not_farOff_empty {r : Rule} : ¬ FarOff r (.list []) := by
  rintro ⟨i, item, hitem, -⟩
  cases hitem

theorem objectRule_hidesWhen : objectRule.HidesWhen HasLongKey := by
  have leaf {rule : Rule} (leaf : rule.IsLeaf) (hkeys : rule.keys = none) :
      (rule.HidesWhen fun _ => False) ∧ ∀ d, rule.default = some d → ¬ False :=
    ⟨leaf.hidesWhen hkeys, fun _ _ => not_false⟩
  refine Rule.HidesWhen.congr (objectRule_record.hidesWhen (P := fun _ _ => False) ?_) fun v => ?_
  · simp only [objectFields, List.forall_mem_cons]
    exact ⟨leaf ⟨rfl, rfl, rfl⟩ rfl, leaf ⟨rfl, rfl, rfl⟩ rfl, leaf ⟨rfl, rfl, rfl⟩ rfl,
      List.forall_mem_nil _⟩
  · simp

/-- What is hidden in a field of a job. -/
def JobHides (name : String) (v : Value) : Prop :=
  (name ∈ ["preLoadNodeLabels", "namespaceLabels", "namespaceAnnotations"] ∧ HasLongKey v) ∨
    (name = "functionTemplates" ∧ FarOff nameRule v) ∨
    (name = "objects" ∧ ((∃ object ∈ v.members, HasLongKey object) ∨ FarOff objectRule v))

theorem jobRule_hidesWhen : jobRule.HidesWhen JobUnwritable := by
  have leaf {rule : Rule} (leaf : rule.IsLeaf) (hkeys : rule.keys = none) :
      rule.HidesWhen fun _ => False := leaf.hidesWhen hkeys
  have templates := functionTemplates_sequence.hidesWhen (nameRule_leaf.hidesWhen rfl)
  have objects := objects_sequence.hidesWhen objectRule_hidesWhen
  refine Rule.HidesWhen.congr (jobRule_record.hidesWhen (P := JobHides) ?_) fun job => ?_
  · simp only [jobFields, List.forall_mem_cons]
    refine ⟨⟨(leaf ⟨rfl, rfl, rfl⟩ rfl).congr ?_, ?_⟩, ⟨(leaf ⟨rfl, rfl, rfl⟩ rfl).congr ?_, ?_⟩,
      ⟨(leaf ⟨rfl, rfl, rfl⟩ rfl).congr ?_, ?_⟩, ⟨(leaf ⟨rfl, rfl, rfl⟩ rfl).congr ?_, ?_⟩,
      ⟨labelsRule_hidesWhen.congr ?_, ?_⟩, ⟨labelsRule_hidesWhen.congr ?_, ?_⟩,
      ⟨labelsRule_hidesWhen.congr ?_, ?_⟩, ⟨templates.congr ?_, ?_⟩, ⟨objects.congr ?_, ?_⟩,
      List.forall_mem_nil _⟩
    all_goals simp [JobHides, nameRule, optionalNameRule, durationRule, labelsRule, listRule,
      not_hasLongKey_empty, not_farOff_empty, Value.members]
  · constructor
    · rintro (h | ⟨_, -, w, hw, ⟨hname, h⟩ | ⟨hname, h⟩ | ⟨hname, ⟨object, mem, h⟩ | h⟩⟩)
      · exact .key h
      · exact .labels hname hw h
      · exact .template (hname ▸ hw) h
      · exact .objectKey (hname ▸ hw) mem h
      · exact .object (hname ▸ hw) h
    · have labels : ∀ name ∈ ["preLoadNodeLabels", "namespaceLabels", "namespaceAnnotations"],
          name ∈ jobFields.map (·.1) := by decide
      rintro (h | ⟨hname, hw, h⟩ | ⟨hw, h⟩ | ⟨hw, mem, h⟩ | ⟨hw, h⟩)
      · exact Or.inl h
      · exact Or.inr ⟨_, labels _ hname, _, hw, Or.inl ⟨hname, h⟩⟩
      · exact Or.inr ⟨"functionTemplates", by decide, _, hw, Or.inr (Or.inl ⟨rfl, h⟩)⟩
      · exact Or.inr ⟨"objects", by decide, _, hw, Or.inr (Or.inr ⟨rfl, Or.inl ⟨_, mem, h⟩⟩)⟩
      · exact Or.inr ⟨"objects", by decide, _, hw, Or.inr (Or.inr ⟨rfl, Or.inr h⟩)⟩

theorem schema_hidesWhen : schema.HidesWhen Unwritable := by
  have leaf {rule : Rule} (leaf : rule.IsLeaf) (hkeys : rule.keys = none) :
      rule.HidesWhen fun _ => False := leaf.hidesWhen hkeys
  have jobs := jobs_sequence.hidesWhen jobRule_hidesWhen
  refine Rule.HidesWhen.congr (schema_record.hidesWhen (P := fun name v => name = "jobs" ∧
    ((∃ job ∈ v.members, JobUnwritable job) ∨ FarOff jobRule v)) ?_) fun document => ?_
  · simp only [configurationFields, List.forall_mem_cons]
    refine ⟨⟨(leaf ⟨rfl, rfl, rfl⟩ rfl).congr ?_, ?_⟩, ⟨(leaf ⟨rfl, rfl, rfl⟩ rfl).congr ?_, ?_⟩,
      ⟨(leaf ⟨rfl, rfl, rfl⟩ rfl).congr ?_, ?_⟩, ⟨(leaf ⟨rfl, rfl, rfl⟩ rfl).congr ?_, ?_⟩,
      ⟨jobs.congr ?_, ?_⟩, List.forall_mem_nil _⟩
    all_goals simp [versionKey, nameRule]
  · constructor
    · rintro (h | ⟨_, -, w, hw, hname, ⟨job, mem, h⟩ | h⟩)
      · exact .key h
      · exact .inJob ⟨w, hname ▸ hw, mem⟩ h
      · exact .job (hname ▸ hw) h
    · rintro (h | ⟨⟨jobs, hw, mem⟩, h⟩ | ⟨hw, h⟩)
      · exact Or.inl h
      · exact Or.inr ⟨"jobs", by decide, _, hw, rfl, Or.inl ⟨_, mem, h⟩⟩
      · exact Or.inr ⟨"jobs", by decide, _, hw, rfl, Or.inr h⟩

/-! ### What cannot be written down -/

theorem nameRule_keepsLength : nameRule.KeepsLength :=
  nameRule_leaf.keepsLength rfl

theorem labelsRule_keepsLength : labelsRule.KeepsLength := by
  refine Rule.keepsLength_of_parts rfl ?_ nofun nofun
  rintro r ⟨⟩
  exact Rule.IsLeaf.keepsLength ⟨rfl, rfl, rfl⟩ rfl

theorem objectRule_keepsLength : objectRule.KeepsLength := by
  have hpow {limit : Nat} (h : limit ≠ 0) : 1 < Nat.pow 10 limit := Nat.one_lt_pow h (by omega)
  have hone : Value.isLongInt 1 = false := decide_eq_false (Nat.not_le.2 (hpow (by decide)))
  refine objectRule_record.keepsLength ?_
  simp only [objectFields, List.forall_mem_cons]
  refine ⟨Rule.IsLeaf.keepsLength ⟨rfl, rfl, rfl⟩ rfl, Rule.IsLeaf.keepsLength ⟨rfl, rfl, rfl⟩ ?_,
    Rule.IsLeaf.keepsLength ⟨rfl, rfl, rfl⟩ rfl, List.forall_mem_nil _⟩
  simp [Value.isTooLong, hone]

theorem jobRule_keepsLength : jobRule.KeepsLength := by
  refine jobRule_record.keepsLength ?_
  simp only [jobFields, List.forall_mem_cons]
  refine ⟨?_, ?_, ?_, ?_, labelsRule_keepsLength, labelsRule_keepsLength, labelsRule_keepsLength,
    functionTemplates_sequence.keepsLength rfl nameRule_keepsLength,
    objects_sequence.keepsLength rfl objectRule_keepsLength, List.forall_mem_nil _⟩
  all_goals exact Rule.IsLeaf.keepsLength ⟨rfl, rfl, rfl⟩ rfl

theorem schema_keepsLength : schema.KeepsLength := by
  refine schema_record.keepsLength ?_
  simp only [configurationFields, List.forall_mem_cons]
  refine ⟨?_, ?_, ?_, ?_, jobs_sequence.keepsLength rfl jobRule_keepsLength,
    List.forall_mem_nil _⟩
  all_goals exact Rule.IsLeaf.keepsLength ⟨rfl, rfl, rfl⟩ rfl

end ImagePreload.Config
