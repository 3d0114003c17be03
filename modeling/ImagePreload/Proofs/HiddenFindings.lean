import ImagePreload.Proofs.ConfigForm

/-!
# Findings that cannot be told

What is found in a value is told with the keys on the way to it, and a key with too many
digits cannot be told: a finding behind it is hidden (`Hidden`). In which values a rule hides
findings follows from its shape and from the rules inside it (`Rule.HidesWhen`). A rule with
none inside tells of the value itself, which is at the end of every way
(`Rule.IsLeaf.hidesWhen`). A record puts the names of its fields in front, and these are
texts, but it tells of each key that has no rule; so it hides what its fields hide, and
whatever stands under a key that cannot be written (`Rule.IsRecord.hidesWhen`). In front of
what is found in an item of a list stands its position (`Rule.IsSequence.hidesWhen`).
-/

namespace ImagePreload

/-- The items of a sequence. Those of bytes are numbers. -/
def Value.members : Value → List Value
  | .list vs | .tuple vs => vs
  | .bytes data => data.map fun b => .int b.toNat
  | _ => []

namespace Config

/-! ## Hidden findings -/

/-- Among some findings is one whose path cannot be written. -/
def Hidden (found : List Finding) : Prop := ∃ f ∈ found, f.isWritable = false

section

variable {found more : List Finding} {key : Value}

theorem hidden_iff_all : Hidden found ↔ found.all Finding.isWritable = false := by
  simp [Hidden]

@[simp] theorem not_hidden_nil : ¬ Hidden [] := by
  simp [Hidden]

@[simp] theorem hidden_append : Hidden (found ++ more) ↔ Hidden found ∨ Hidden more := by
  simp [Hidden, or_and_right, exists_or]

theorem hidden_flatMap {α : Type} {as : List α} {f : α → List Finding} :
    Hidden (as.flatMap f) ↔ ∃ a ∈ as, Hidden (f a) := by
  constructor
  · rintro ⟨finding, mem, hfinding⟩
    obtain ⟨a, ha, mem⟩ := List.mem_flatMap.1 mem
    exact ⟨a, ha, finding, mem, hfinding⟩
  · rintro ⟨a, ha, finding, mem, hfinding⟩
    exact ⟨finding, List.mem_flatMap.2 ⟨a, ha, mem⟩, hfinding⟩

theorem Finding.isWritable_under (key : Value) (f : Finding) :
    (f.under key).isWritable = (!key.isTooLong && f.isWritable) := by
  rw [Finding.isWritable, Finding.under, List.all_cons]
  rfl

/-- Under a key that cannot be written everything is hidden. -/
theorem hidden_under :
    Hidden (found.map (·.under key)) ↔
      (key.isTooLong = true ∧ found ≠ []) ∨ Hidden found := by
  cases hkey : key.isTooLong with
  | false => simp [Hidden, Finding.isWritable_under, hkey]
  | true =>
      cases found with
      | nil => simp
      | cons f found =>
          have hf : (f.under key).isWritable = false := by simp [Finding.isWritable_under, hkey]
          exact iff_of_true ⟨f.under key, List.mem_cons_self, hf⟩ (Or.inl ⟨rfl, nofun⟩)

theorem hidden_under_text (name : String) :
    Hidden (found.map (·.under (.text name))) ↔ Hidden found := by
  rw [hidden_under]
  simp [Value.isTooLong]

/-- A finding about a value itself is told without a path. -/
theorem not_hidden_of_path (h : ∀ f ∈ found, f.path = []) : ¬ Hidden found := by
  rintro ⟨f, mem, hf⟩
  rw [Finding.isWritable, h f mem] at hf
  cases hf

end

/-! ## What a rule finds -/

/-- All that is found in a value, before and after it is completed. -/
def Rule.found (rule : Rule) (key v : Value) : List Finding :=
  (rule.complete key v).2 ++ rule.findings (rule.complete key v).1

/-- A rule hides findings in the values with a certain property, and in no others. -/
def Rule.HidesWhen (rule : Rule) (P : Value → Prop) : Prop :=
  ∀ key v, Hidden (rule.found key v) ↔ P v

section

variable {rule : Rule} {key u v w : Value}

theorem Rule.HidesWhen.congr {P Q : Value → Prop} (h : rule.HidesWhen P)
    (hiff : ∀ v, P v ↔ Q v) : rule.HidesWhen Q :=
  fun key v => (h key v).trans (hiff v)

theorem Rule.found_eq_nil_iff : rule.found key v = [] ↔ ∃ w, rule.Accepts v w := by
  rw [Rule.found, List.append_eq_nil_iff]
  constructor
  · rintro ⟨hcompleted, hsound⟩
    exact ⟨_, Rule.completes_of_key (Prod.ext rfl hcompleted), hsound⟩
  · rintro ⟨w, hcompletes, hsound⟩
    rw [hcompletes]
    exact ⟨rfl, hsound⟩

/-- What a rule finds is what validation tells under the key. -/
theorem Rule.validate_found (rule : Rule) (key v : Value) :
    (rule.validate key v).2 = (rule.found key v).map (·.under key) :=
  rfl

theorem Rule.path_of_convert {f : Finding} (mem : f ∈ (rule.convert key v).2) : f.path = [] := by
  unfold Rule.convert at mem
  split at mem
  · cases mem
  · split at mem
    · cases mem
    · dsimp only at mem
      generalize (rule.nullable && _) = allowed at mem
      cases allowed with
      | true => cases mem
      | false => exact congrArg Finding.path (List.mem_singleton.1 mem)

theorem path_of_broken {message : String} {f : Finding} (mem : f ∈ [broken message]) :
    f.path = [] := by
  rw [List.mem_singleton.1 mem, broken]

theorem Rule.path_of_flaws {f : Finding} (mem : f ∈ rule.flaws v) : f.path = [] := by
  unfold Rule.flaws at mem
  simp only [List.mem_append] at mem
  rcases mem with ((emptiness | number) | smallness) | duration
  · split at emptiness
    · exact path_of_broken emptiness
    · cases emptiness
  · split at number
    · split at number
      · cases number
      · exact path_of_broken number
    · cases number
  · split at smallness
    · split at smallness
      · exact path_of_broken smallness
      · cases smallness
    · cases smallness
  · split at duration
    · split at duration
      · cases duration
      · split at duration
        · cases duration
        · exact path_of_broken duration
    · cases duration

theorem ValueSort.not_holds_null (sort : ValueSort) : sort.holds .null = false := by
  cases sort <;> rfl

theorem Rule.findings_of_holds (h : rule.sort.holds v = true) :
    rule.findings v = rule.flaws v ++ rule.findingsInside v := by
  cases v with
  | null =>
      rw [ValueSort.not_holds_null] at h
      cases h
  | _ =>
      cases rule
      rw [Rule.findings, if_neg (by simpa using h)]
      · rfl
      all_goals intros; contradiction

theorem Rule.path_of_not_holds (h : rule.sort.holds v = false) {f : Finding}
    (mem : f ∈ rule.findings v) : f.path = [] := by
  cases rule
  unfold Rule.findings at mem
  split at mem
  · split at mem
    · cases mem
    · exact path_of_broken mem
  · rw [if_pos (by simpa using h)] at mem
    exact path_of_broken mem

/-- Only inside a value of the right sort can findings hide. -/
theorem Rule.hidden_findings_iff :
    Hidden (rule.findings v) ↔ rule.sort.holds v = true ∧ Hidden (rule.findingsInside v) := by
  cases hholds : rule.sort.holds v with
  | false => simpa using not_hidden_of_path fun f => Rule.path_of_not_holds hholds
  | true =>
      have hflaws : ¬ Hidden (rule.flaws v) := not_hidden_of_path fun f => Rule.path_of_flaws
      simp [Rule.findings_of_holds hholds, hflaws]

/-- Findings hide where what is inside a value is completed, or in what it has become. -/
theorem Rule.hidden_found_iff (hstart : (rule.start key v).1 = u) :
    Hidden (rule.found key v) ↔ Hidden (rule.inside u).2 ∨
      (rule.sort.holds (rule.inside u).1 = true ∧
        Hidden (rule.findingsInside (rule.inside u).1)) := by
  have hconvert : ¬ Hidden (rule.start key v).2 :=
    not_hidden_of_path fun f => Rule.path_of_convert
  rw [Rule.found, Rule.complete_eq, hstart]
  simp [hconvert, Rule.hidden_findings_iff]

theorem Rule.start_of_ne_null (htext : rule.convertsToText = false) (hv : v ≠ .null) :
    rule.start key v = (v, []) := by
  rw [Rule.start, Rule.substitute_of_ne_null hv, Rule.convert_of_ne_null htext (Or.inr hv)]

/-! ### Values with nothing inside -/

theorem Rule.IsLeaf.findingsInside_eq (leaf : rule.IsLeaf) (hkeys : rule.keys = none) (v : Value) :
    rule.findingsInside v = [] := by
  unfold Rule.findingsInside
  simp only [hkeys, leaf.values, leaf.items, leaf.fields, keyFindings, valueFindings, itemFindings,
    fieldFindings]
  cases v <;> rfl

theorem Rule.IsLeaf.hidesWhen (leaf : rule.IsLeaf) (hkeys : rule.keys = none) :
    rule.HidesWhen fun _ => False := by
  intro key v
  rw [Rule.hidden_found_iff rfl, leaf.inside_eq]
  simp [leaf.findingsInside_eq hkeys]

/-! ### Labels -/

/-- A mapping with a key that cannot be written. -/
def HasLongKey (v : Value) : Prop :=
  ∃ entries : Entries, v = .map entries ∧ ∃ k ∈ entries.keys, k.isTooLong = true

theorem hasLongKey_map_iff {entries : Entries} :
    HasLongKey (.map entries) ↔ ∃ e ∈ entries, e.1.isTooLong = true := by
  constructor
  · rintro ⟨entries, ⟨⟩, k, mem, hk⟩
    obtain ⟨e, he, rfl⟩ := List.mem_map.1 mem
    exact ⟨e, he, hk⟩
  · rintro ⟨e, mem, he⟩
    exact ⟨entries, rfl, e.1, List.mem_map_of_mem mem, he⟩

/-- A rule that looks into mappings only leaves everything else as it is. -/
theorem Rule.inside_of_not_map (hitems : rule.items = none) (hv : ∀ entries, v ≠ .map entries) :
    rule.inside v = (v, []) := by
  cases v with
  | map entries => exact absurd rfl (hv entries)
  | list vs | tuple vs => rw [Rule.inside, hitems, completeItems]
  | _ => rfl

theorem ValueSort.not_mapping_holds (hv : ∀ entries, v ≠ .map entries) :
    ValueSort.mapping.holds v = false := by
  cases v with
  | map entries => exact absurd rfl (hv entries)
  | _ => rfl

theorem Rule.IsLeaf.not_hidden_findings (leaf : rule.IsLeaf) (hkeys : rule.keys = none)
    (v : Value) : ¬ Hidden (rule.findings v) := by
  simp [Rule.hidden_findings_iff, leaf.findingsInside_eq hkeys]

theorem labelsRule_not_hidden (hv : ∀ entries, v ≠ .map entries) :
    ¬ Hidden (labelsRule.found key v) := by
  by_cases hnull : v = .null
  · subst hnull
    have hstart : (labelsRule.start key .null).1 = .map [] := rfl
    rw [Rule.hidden_found_iff hstart]
    simp [Rule.inside, Rule.findingsInside, labelsRule, completeValues, completeFields,
      keyFindings, valueFindings, fieldFindings]
  · have hstart : labelsRule.start key v = (v, []) := Rule.start_of_ne_null rfl hnull
    rw [Rule.hidden_found_iff (congrArg Prod.fst hstart), Rule.inside_of_not_map rfl hv]
    simp [labelsRule, ValueSort.not_mapping_holds hv]

/-- Labels hide findings under the keys that cannot be written. Under such a key there always
is one, for it is no text. -/
theorem labelsRule_hidesWhen : labelsRule.HidesWhen HasLongKey := by
  intro key v
  by_cases hv : ∀ entries, v ≠ .map entries
  · refine iff_of_false (labelsRule_not_hidden hv) ?_
    rintro ⟨entries, hmap, -⟩
    exact hv entries hmap
  push Not at hv
  obtain ⟨entries, rfl⟩ := hv
  have hstart : labelsRule.start key (.map entries) = (.map entries, []) :=
    Rule.start_of_ne_null rfl (by simp)
  have keyLeaf : Rule.IsLeaf { sort := .text } := ⟨rfl, rfl, rfl⟩
  have valueLeaf : Rule.IsLeaf { sort := .text, conversion := some .toText } := ⟨rfl, rfl, rfl⟩
  rw [Rule.hidden_found_iff (congrArg Prod.fst hstart), hasLongKey_map_iff, Rule.inside]
  simp only [labelsRule, completeValues_eq, completeFields, Rule.findingsInside, keyFindings,
    valueFindings, fieldFindings, List.append_nil, List.flatMap_map, hidden_append,
    hidden_flatMap, hidden_under]
  constructor
  · rintro (⟨e, mem, (⟨hlong, -⟩ | hvalue)⟩ |
      ⟨-, ⟨e, mem, (⟨hlong, -⟩ | hkey)⟩ | ⟨e, mem, (⟨hlong, -⟩ | hvalue)⟩⟩)
    · exact ⟨e, mem, hlong⟩
    · exact absurd (hidden_append.2 (Or.inl hvalue)) (valueLeaf.hidesWhen rfl e.1 e.2).1
    · exact ⟨e, mem, hlong⟩
    · exact absurd hkey (keyLeaf.not_hidden_findings rfl _)
    · exact ⟨e, mem, hlong⟩
    · exact absurd hvalue (valueLeaf.not_hidden_findings rfl _)
  · rintro ⟨e, mem, hlong⟩
    refine Or.inr ⟨rfl, Or.inl ⟨e, mem, Or.inl ⟨hlong, fun hnil => ?_⟩⟩⟩
    obtain ⟨s, hs⟩ := Rule.text_of_findings rfl rfl hnil
    rw [hs] at hlong
    cases hlong

/-! ### Lists -/

/-- A rule of lists with a rule for the items. -/
structure Rule.IsSequence (rule r : Rule) : Prop where
  sort : rule.sort = .list
  keepsValues : rule.convertsToText = false
  keepsItems : r.convertsToText = false
  /-- Nothing, or an empty list, stands in the place of null. -/
  noItems : ∀ key, (rule.start key .null).1 = .null ∨ (rule.start key .null).1 = .list []
  values : rule.values = none
  items : rule.items = some r
  fields : rule.fields = none

/-- A sequence so long that the position of an item cannot be written, and what is wrong with
that item. -/
def FarOff (r : Rule) (v : Value) : Prop :=
  ∃ (i : Nat) (item : Value), v.members[i]? = some item ∧ Value.isLongInt i = true ∧
    ¬ ∃ w, r.Accepts item w

theorem hidden_completeItems_iff {r : Rule} {vs : List Value} :
    Hidden (completeItems (some r) 0 vs).2 ∨
        Hidden (itemFindings (some r) (completeItems (some r) 0 vs).1) ↔
      ∃ (i : Nat) (v : Value), vs[i]? = some v ∧
        Hidden ((r.found (.int i) v).map (·.under (.int i))) := by
  rw [completeItems_eq, itemFindings, hidden_flatMap, hidden_flatMap]
  simp only [Prod.exists, List.mem_zipIdx_iff_getElem?, List.getElem?_map, List.getElem?_zipIdx,
    Nat.zero_add, Option.map_map, Option.map_eq_some_iff, Function.comp_apply]
  simp only [Rule.found, List.map_append, hidden_append]
  constructor
  · rintro (⟨v, i, hv, h⟩ | ⟨w, i, ⟨v, hv, rfl⟩, h⟩)
    · exact ⟨i, v, hv, Or.inl h⟩
    · exact ⟨i, v, hv, Or.inr h⟩
  · rintro ⟨i, v, hv, h | h⟩
    · exact Or.inl ⟨v, i, hv, h⟩
    · exact Or.inr ⟨_, i, ⟨v, hv, rfl⟩, h⟩

/-- Numbers are not completed, where they are not made texts. -/
theorem Rule.found_int (h : rule.convertsToText = false) (n : Int) :
    rule.found key (.int n) = rule.findings (.int n) := by
  have hcomplete : rule.complete key (.int n) = (.int n, []) :=
    Rule.complete_eq_nil_iff.2 ⟨_, Rule.start_of_ne_null h nofun, rfl⟩
  rw [Rule.found, hcomplete, List.nil_append]

theorem Rule.IsSequence.hidden_iff {r : Rule} (sequence : rule.IsSequence r) (key v : Value) :
    Hidden (rule.found key v) ↔
      ∃ (i : Nat) (item : Value), v.members[i]? = some item ∧
        Hidden ((r.found (.int i) item).map (·.under (.int i))) := by
  by_cases hnull : v = .null
  · subst hnull
    refine iff_of_false ?_ (by simp [Value.members])
    rcases sequence.noItems key with hstart | hstart
    · rw [Rule.hidden_found_iff hstart]
      simp [Rule.inside, ValueSort.not_holds_null]
    · rw [Rule.hidden_found_iff hstart]
      simp [Rule.inside, Rule.findingsInside, sequence.items, completeItems, itemFindings]
  · have hstart : rule.start key v = (v, []) := Rule.start_of_ne_null sequence.keepsValues hnull
    rw [Rule.hidden_found_iff (congrArg Prod.fst hstart), sequence.sort]
    cases v with
    | list vs | tuple vs =>
        rw [Value.members, ← hidden_completeItems_iff, Rule.inside, sequence.items]
        simp [Rule.findingsInside, sequence.items, ValueSort.holds]
    | bytes data =>
        rw [Value.members, Rule.inside]
        · simp only [not_hidden_nil, false_or, ValueSort.holds, Rule.findingsInside, sequence.items,
            itemFindings, hidden_flatMap, Prod.exists, List.mem_zipIdx_iff_getElem?, true_and]
          constructor
          · rintro ⟨item, i, hitem, h⟩
            obtain ⟨b, -, rfl⟩ := List.mem_map.1 (List.mem_of_getElem? hitem)
            exact ⟨i, _, hitem, by rwa [Rule.found_int sequence.keepsItems]⟩
          · rintro ⟨i, item, hitem, h⟩
            obtain ⟨b, -, rfl⟩ := List.mem_map.1 (List.mem_of_getElem? hitem)
            exact ⟨_, i, hitem, by rwa [Rule.found_int sequence.keepsItems] at h⟩
        all_goals intros; contradiction
    | map entries =>
        simp [Value.members, Rule.inside, sequence.values, sequence.fields, completeValues,
          completeFields, ValueSort.holds]
    | _ => simp [Value.members, Rule.inside, ValueSort.holds]

/-- A list hides what its items hide, and what is wrong with those that are too far off. -/
theorem Rule.IsSequence.hidesWhen {r : Rule} {P : Value → Prop} (sequence : rule.IsSequence r)
    (items : r.HidesWhen P) :
    rule.HidesWhen fun v => (∃ item ∈ v.members, P item) ∨ FarOff r v := by
  intro key v
  rw [sequence.hidden_iff key v]
  simp only [hidden_under, ne_eq, Rule.found_eq_nil_iff, items _ _]
  constructor
  · rintro ⟨i, item, hitem, ⟨hlong, hwrong⟩ | h⟩
    · exact Or.inr ⟨i, item, hitem, by rwa [Value.isTooLong] at hlong, hwrong⟩
    · exact Or.inl ⟨item, List.mem_of_getElem? hitem, h⟩
  · rintro (⟨item, mem, h⟩ | ⟨i, item, hitem, hlong, hwrong⟩)
    · obtain ⟨i, hitem⟩ := List.mem_iff_getElem?.1 mem
      exact ⟨i, item, hitem, Or.inr h⟩
    · exact ⟨i, item, hitem, Or.inl ⟨by rwa [Value.isTooLong], hwrong⟩⟩

/-! ### Records -/

theorem hidden_completeEach_iff {rules : List (String × Rule)} {entries : Entries}
    (distinct : (rules.map (·.1)).Nodup) :
    Hidden (completeEach rules entries).2 ↔
      ∃ field ∈ rules, ∃ v, field.2.given field.1 entries = some v ∧
        Hidden (field.2.complete (.text field.1) v).2 := by
  constructor
  · rintro ⟨f, mem, hf⟩
    obtain ⟨field, hfield, v, hgiven, mem⟩ := (mem_completeEach distinct).1 mem
    exact ⟨field, hfield, v, hgiven, (hidden_under_text field.1).1 ⟨f, mem, hf⟩⟩
  · rintro ⟨field, hfield, v, hgiven, h⟩
    obtain ⟨f, mem, hf⟩ := (hidden_under_text field.1).2 h
    exact ⟨f, (mem_completeEach distinct).2 ⟨field, hfield, v, hgiven, mem⟩, hf⟩

theorem hidden_findingsOfEach_iff {rules : List (String × Rule)} {entries : Entries} :
    Hidden (findingsOfEach rules entries) ↔
      ∃ field ∈ rules, ∃ v, entries.get? (.text field.1) = some v ∧
        Hidden (field.2.findings v) := by
  induction rules with
  | nil => simp [findingsOfEach]
  | cons field rules ih =>
      obtain ⟨name, rule⟩ := field
      rw [findingsOfEach, hidden_append, ih, hidden_under_text]
      have hrequired :
          ¬ Hidden (if rule.required = true then [broken "required field"] else []) := by
        refine not_hidden_of_path fun f mem => ?_
        split at mem
        · exact path_of_broken mem
        · cases mem
      cases hget : entries.get? (.text name) with
      | none => simp [hget, hrequired]
      | some v => simp [hget]

/-- A key that cannot be written is no text, and so it has no rule. -/
theorem hidden_fieldFindings_iff {rules : List (String × Rule)} {entries : Entries} :
    Hidden (fieldFindings (some rules) entries) ↔
      HasLongKey (.map entries) ∨
        ∃ field ∈ rules, ∃ v, entries.get? (.text field.1) = some v ∧
          Hidden (field.2.findings v) := by
  rw [fieldFindings, hidden_append, hidden_findingsOfEach_iff, hasLongKey_map_iff]
  refine or_congr_left ⟨?_, ?_⟩
  · rintro ⟨f, mem, hf⟩
    obtain ⟨e, he, rfl⟩ := List.mem_map.1 mem
    exact ⟨e, List.mem_of_mem_filter he, by simpa [Finding.isWritable] using hf⟩
  · rintro ⟨⟨k, v⟩, he, hlong⟩
    refine ⟨⟨[k], "unknown field"⟩, List.mem_map.2 ⟨(k, v), List.mem_filter.2 ⟨he, ?_⟩, rfl⟩, ?_⟩
    · cases k with
      | text name => cases hlong
      | _ => rfl
    · simpa [Finding.isWritable] using hlong

theorem hasLongKey_completeEach_iff {rules : List (String × Rule)} {entries : Entries} :
    HasLongKey (.map (completeEach rules entries).1) ↔ HasLongKey (.map entries) := by
  constructor
  · rintro ⟨_, ⟨⟩, k, mem, hlong⟩
    rcases mem_keys_of_completeEach mem with mem | ⟨name, rfl⟩
    · exact ⟨entries, rfl, k, mem, hlong⟩
    · cases hlong
  · rintro ⟨_, ⟨⟩, k, mem, hlong⟩
    exact ⟨_, rfl, k, mem_keys_completeEach mem, hlong⟩

theorem hidden_fields_iff {rules : List (String × Rule)} {entries : Entries}
    (distinct : (rules.map (·.1)).Nodup) :
    Hidden (completeEach rules entries).2 ∨
        Hidden (fieldFindings (some rules) (completeEach rules entries).1) ↔
      HasLongKey (.map entries) ∨
        ∃ field ∈ rules, ∃ v, field.2.given field.1 entries = some v ∧
          Hidden (field.2.found (.text field.1) v) := by
  rw [hidden_completeEach_iff distinct, hidden_fieldFindings_iff, hasLongKey_completeEach_iff,
    or_left_comm, ← exists_or]
  refine or_congr_right (exists_congr fun field => ?_)
  rw [← and_or_left]
  refine and_congr_right fun mem => ?_
  rw [get?_completeEach distinct mem]
  cases field.2.given field.1 entries with
  | none => simp
  | some v => simp [Rule.found]

/-- A record hides what its fields hide, and the keys that cannot be written. -/
theorem Rule.IsRecord.hidesWhen {rules : List (String × Rule)} {P : String → Value → Prop}
    (record : rule.IsRecord rules)
    (fields : ∀ field ∈ rules, field.2.HidesWhen (P field.1) ∧
      ∀ d, field.2.default = some d → ¬ P field.1 d) :
    rule.HidesWhen fun v =>
      HasLongKey v ∨ ∃ name ∈ rules.map (·.1), ∃ w, v.field? name = some w ∧ P name w := by
  intro key v
  simp only [List.mem_map, exists_exists_and_eq_and]
  have hstart : (rule.start key v).1 = v := by
    simp [Rule.start, Rule.substitute_of_no_default record.default, Rule.convert, record.conversion]
  rw [Rule.hidden_found_iff hstart, record.sort]
  by_cases hv : ∀ entries, v ≠ .map entries
  · rw [Rule.inside_of_not_map record.items hv, ValueSort.not_mapping_holds hv]
    refine iff_of_false (by simp) ?_
    rintro (⟨entries, hmap, -⟩ | ⟨field, -, w, hw, -⟩)
    · exact hv entries hmap
    · cases v with
      | map entries => exact hv entries rfl
      | _ => cases hw
  · push Not at hv
    obtain ⟨entries, rfl⟩ := hv
    simp only [Rule.inside, record.values, completeValues, record.fields, completeFields,
      Rule.findingsInside, record.keys, keyFindings, valueFindings, List.nil_append,
      ValueSort.holds, true_and]
    rw [hidden_fields_iff record.distinct]
    refine or_congr_right (exists_congr fun field => and_congr_right fun mem => ?_)
    obtain ⟨hides, hdefault⟩ := fields field mem
    simp only [hides _ _, Value.field?]
    constructor
    · rintro ⟨v, hgiven, hv⟩
      rcases Option.or_eq_some_iff.1 hgiven with hget | ⟨-, hd⟩
      · exact ⟨v, hget, hv⟩
      · exact absurd hv (hdefault v hd)
    · rintro ⟨v, hget, hv⟩
      exact ⟨v, by rw [Rule.given, hget, Option.some_or], hv⟩

end

end Config

end ImagePreload
