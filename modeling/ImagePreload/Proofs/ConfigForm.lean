import ImagePreload.Config
import ImagePreload.Proofs.Completion

/-!
# The form of accepted configurations

What the rules accept is a mapping with every key that has a rule, each job in it has
every key of jobs, and each object every key of objects (`IsConfiguration`); texts are
where texts are asked for, and every duration can be read. Of what was given nothing is
lost (`KeepsConfiguration`): a value that is not null is kept, as its text where a text is
asked for, and jobs and objects stay in their order.

Both follow rule by rule from what acceptance of a record means for its fields
(`Rule.IsRecord.hasFields`, `Rule.IsRecord.keepsFields`). Since every rule is settled, an
accepted configuration is accepted again, as it is (`complete_settled`).
-/

namespace ImagePreload.Config

/-! ## Forms -/

/-- A text that is not empty. -/
def IsName (v : Value) : Prop := ∃ s, v = .text s ∧ s ≠ ""

def IsOptionalName (v : Value) : Prop := v = .null ∨ IsName v

def IsVersion (v : Value) : Prop := ∃ s, v = .text s ∧ isNumeral s = true

def IsDuration (v : Value) : Prop := ∃ s seconds, v = .text s ∧ parseDuration s = .ok seconds

/-- Texts under texts. -/
def IsLabels (v : Value) : Prop :=
  ∃ labels : List (String × String), v = .map (labels.map fun (k, t) => (.text k, .text t))

def IsFlag (v : Value) : Prop := ∃ b, v = .bool b

/-- A number of copies; a truth value counts as zero or one. -/
def IsCount (v : Value) : Prop := ∃ n : Int, v.number? = some (.int n) ∧ 0 ≤ n

def IsMapping (v : Value) : Prop := ∃ entries, v = .map entries

/-- A sequence all of whose items have a form. Bytes are one only if there are none. -/
inductive Each (form : Value → Prop) : Value → Prop
  | list {vs : List Value} (all : ∀ v ∈ vs, form v) : Each form (.list vs)
  | tuple {vs : List Value} (all : ∀ v ∈ vs, form v) : Each form (.tuple vs)
  | noBytes : Each form (.bytes [])

/-- A mapping with a value of some form under each of some names. -/
def HasFields (forms : List (String × (Value → Prop))) (v : Value) : Prop :=
  ∃ entries : Entries, v = .map entries ∧
    ∀ field ∈ forms, ∃ w, entries.get? (.text field.1) = some w ∧ field.2 w

def IsObject : Value → Prop :=
  HasFields [("objectTemplate", IsName), ("replicas", IsCount), ("inputVars", IsMapping)]

def IsJob : Value → Prop :=
  HasFields
    [("name", IsName), ("namespace", IsOptionalName), ("preLoadImages", IsFlag),
      ("preLoadPeriod", IsDuration), ("preLoadNodeLabels", IsLabels),
      ("namespaceLabels", IsLabels), ("namespaceAnnotations", IsLabels),
      ("functionTemplates", Each IsName), ("objects", Each IsObject)]

def IsConfiguration : Value → Prop :=
  HasFields
    [(versionKey, IsVersion), ("logFile", IsOptionalName), ("kubeconfig", IsOptionalName),
      ("cleanupTimeout", IsDuration), ("jobs", Each IsJob)]

/-! ## What is kept -/

/-- What was given, as a text. -/
def KeptAsText (given kept : Value) : Prop := kept = .text given.display

/-- The keys that were given, with the texts of their values. -/
def KeptAsTexts (given kept : Value) : Prop :=
  ∃ entries, given = .map entries ∧
    kept = .map (entries.map fun (k, v) => (k, .text v.display))

/-- As many items as were given, in the same order. -/
inductive KeptInOrder (keeps : Value → Value → Prop) : Value → Value → Prop
  | list {vs ws : List Value} (all : List.Forall₂ keeps vs ws) :
      KeptInOrder keeps (.list vs) (.list ws)
  | tuple {vs ws : List Value} (all : List.Forall₂ keeps vs ws) :
      KeptInOrder keeps (.tuple vs) (.tuple ws)
  | noBytes : KeptInOrder keeps (.bytes []) (.bytes [])

/-- A mapping with no other keys than some names, of which whatever was given and not null is
kept. -/
def KeepsFields (keeps : List (String × (Value → Value → Prop))) (given kept : Value) : Prop :=
  ∃ entries entries' : Entries, given = .map entries ∧ kept = .map entries' ∧
    (∀ key ∈ entries.keys, ∃ name ∈ keeps.map (·.1), key = .text name) ∧
    ∀ field ∈ keeps, ∀ v, entries.get? (.text field.1) = some v → v ≠ .null →
      ∃ w, entries'.get? (.text field.1) = some w ∧ field.2 v w

def KeepsObject : Value → Value → Prop :=
  KeepsFields
    [("objectTemplate", fun v w => w = v), ("replicas", fun v w => w = v),
      ("inputVars", fun v w => w = v)]

def KeepsJob : Value → Value → Prop :=
  KeepsFields
    [("name", fun v w => w = v), ("namespace", fun v w => w = v),
      ("preLoadImages", fun v w => w = v), ("preLoadPeriod", KeptAsText),
      ("preLoadNodeLabels", KeptAsTexts), ("namespaceLabels", KeptAsTexts),
      ("namespaceAnnotations", KeptAsTexts), ("functionTemplates", fun v w => w = v),
      ("objects", KeptInOrder KeepsObject)]

def KeepsConfiguration : Value → Value → Prop :=
  KeepsFields
    [(versionKey, KeptAsText), ("logFile", fun v w => w = v), ("kubeconfig", fun v w => w = v),
      ("cleanupTimeout", KeptAsText), ("jobs", KeptInOrder KeepsJob)]

/-! ## Values with nothing inside -/

section

variable {rule : Rule} {v w : Value}

/-- A rule without rules inside. -/
structure Rule.IsLeaf (rule : Rule) : Prop where
  values : rule.values = none
  items : rule.items = none
  fields : rule.fields = none

theorem Rule.IsLeaf.settled (leaf : rule.IsLeaf) : rule.Settled := by
  refine Rule.settled_of_parts ?_ ?_ ?_
  · simp [leaf.values]
  · simp [leaf.items]
  · simp [leaf.fields]

theorem Rule.IsLeaf.inside_eq (leaf : rule.IsLeaf) (v : Value) : rule.inside v = (v, []) := by
  unfold Rule.inside
  simp only [leaf.values, leaf.items, leaf.fields, completeValues, completeItems, completeFields]
  cases v <;> rfl

/-- A value that is not null is only converted before what is inside it is completed. -/
theorem Rule.Accepts.inside_of_ne_null (htext : rule.convertsToText = false)
    (h : rule.Accepts v w) (hv : v ≠ .null) : rule.inside v = (w, []) := by
  obtain ⟨u, hstart, hinside⟩ := Rule.complete_eq_nil_iff.1 (h.completes .null)
  rw [Rule.start, Rule.substitute_of_ne_null hv] at hstart
  rcases Rule.convert_eq_nil hstart with ⟨hc, -⟩ | ⟨-, -, hu⟩
  · simp [htext] at hc
  · rwa [hu hv] at hinside

/-- Such a value is kept as it is. -/
theorem Rule.Accepts.kept (leaf : rule.IsLeaf) (htext : rule.convertsToText = false)
    (h : rule.Accepts v w) (hv : v ≠ .null) : w = v := by
  have := h.inside_of_ne_null htext hv
  rw [leaf.inside_eq] at this
  exact (Prod.mk.inj this).1.symm

theorem Rule.Completes.text_of_toText (htext : rule.convertsToText = true)
    (h : rule.Completes v w) : w = .text (rule.substitute v).display := by
  obtain ⟨u, hstart, hinside⟩ := Rule.complete_eq_nil_iff.1 (h .null)
  rcases Rule.convert_eq_nil hstart with ⟨-, rfl⟩ | ⟨hc, -⟩
  · exact (Prod.mk.inj hinside).1.symm
  · simp [htext] at hc

theorem Rule.Accepts.keptAsText (htext : rule.convertsToText = true)
    (h : rule.Accepts v w) (hv : v ≠ .null) : KeptAsText v w := by
  rw [KeptAsText, h.completes.text_of_toText htext, Rule.substitute_of_ne_null hv]

/-! ### Their forms -/

theorem not_empty_of_flaws (h : rule.flaws v = []) (hempty : rule.allowsEmpty = false) :
    isEmptyValue v = false := by
  unfold Rule.flaws at h
  simp only [List.append_eq_nil_iff] at h
  simpa [hempty] using h.1.1.1

theorem isNumeral_of_flaws {s : String} (h : rule.flaws (.text s) = [])
    (hempty : rule.allowsEmpty = false) (hnumber : rule.isNumber = true) : isNumeral s = true := by
  have hs : s.isEmpty = false := not_empty_of_flaws h hempty
  unfold Rule.flaws at h
  simp only [List.append_eq_nil_iff] at h
  simpa [hnumber, hs] using h.1.1.2

theorem not_less_of_flaws {least : Int} {n : Number} (h : rule.flaws v = [])
    (hleast : rule.minimum = some least) (hn : v.number? = some n) :
    n.less (.int least) = false := by
  unfold Rule.flaws at h
  simp only [List.append_eq_nil_iff] at h
  simpa [hleast, hn] using h.1.2

theorem parseDuration_of_flaws {s : String} (h : rule.flaws (.text s) = [])
    (hempty : rule.allowsEmpty = true) (hduration : rule.isDuration = true) :
    ∃ seconds, parseDuration s = .ok seconds := by
  unfold Rule.flaws at h
  simp only [List.append_eq_nil_iff] at h
  have := h.2
  simp only [hduration, hempty, Bool.not_true, Bool.and_false] at this
  cases hs : parseDuration s with
  | ok seconds => exact ⟨seconds, rfl⟩
  | error e => simp [hs] at this

theorem ValueSort.text_of_holds (h : ValueSort.text.holds v = true) : ∃ s, v = .text s := by
  cases v with
  | text s => exact ⟨s, rfl⟩
  | _ => cases h

theorem ValueSort.mapping_of_holds (h : ValueSort.mapping.holds v = true) : IsMapping v := by
  cases v with
  | map entries => exact ⟨entries, rfl⟩
  | _ => cases h

theorem ValueSort.flag_of_holds (h : ValueSort.boolean.holds v = true) : IsFlag v := by
  cases v with
  | bool b => exact ⟨b, rfl⟩
  | _ => cases h

theorem ValueSort.integer_of_holds (h : ValueSort.integer.holds v = true) :
    ∃ n : Int, v.number? = some (.int n) := by
  cases v with
  | int n => exact ⟨n, rfl⟩
  | bool b => exact ⟨_, rfl⟩
  | _ => cases h

theorem Rule.Accepts.ne_null (hnull : rule.nullable = false) (h : rule.Accepts v w) :
    w ≠ .null := by
  rcases h.cases with ⟨-, hnullable⟩ | ⟨hw, -⟩
  · simp [hnull] at hnullable
  · exact hw

/-- Nothing takes the place of null without a default or a conversion. -/
theorem Rule.Accepts.given_ne_null (hnull : rule.nullable = false) (hdefault : rule.default = none)
    (hconversion : rule.conversion = none) (h : rule.Accepts v w) : v ≠ .null := by
  rintro rfl
  obtain ⟨u, hstart, hinside⟩ := Rule.complete_eq_nil_iff.1 (h.completes .null)
  simp only [Rule.start, Rule.substitute, hdefault, Rule.convert, hconversion] at hstart
  cases hstart
  cases hinside
  exact h.ne_null hnull rfl

theorem Rule.Accepts.of_ne_null (h : rule.Accepts v w) (hw : w ≠ .null) :
    rule.sort.holds w = true ∧ rule.flaws w = [] ∧ rule.findingsInside w = [] :=
  (h.cases.resolve_left fun hnull => hw hnull.1).2

theorem Rule.text_of_findings (hsort : rule.sort = .text) (hnull : rule.nullable = false)
    (h : rule.findings v = []) : ∃ s, v = .text s := by
  rcases Rule.findings_eq_nil h with ⟨-, hnullable⟩ | ⟨-, hholds, -⟩
  · simp [hnull] at hnullable
  · exact ValueSort.text_of_holds (hsort ▸ hholds)

theorem Rule.Accepts.isOptionalName (hsort : rule.sort = .text)
    (hempty : rule.allowsEmpty = false) (h : rule.Accepts v w) : IsOptionalName w := by
  by_cases hw : w = .null
  · exact Or.inl hw
  · obtain ⟨hholds, hflaws, -⟩ := h.of_ne_null hw
    rw [hsort] at hholds
    obtain ⟨s, rfl⟩ := ValueSort.text_of_holds hholds
    have := not_empty_of_flaws hflaws hempty
    exact Or.inr ⟨s, rfl, by simpa [isEmptyValue] using this⟩

theorem Rule.Accepts.isName (hsort : rule.sort = .text) (hempty : rule.allowsEmpty = false)
    (hnull : rule.nullable = false) (h : rule.Accepts v w) : IsName w :=
  (h.isOptionalName hsort hempty).resolve_left (h.ne_null hnull)

theorem Rule.Accepts.isVersion (hsort : rule.sort = .text) (hempty : rule.allowsEmpty = false)
    (hnull : rule.nullable = false) (hnumber : rule.isNumber = true) (h : rule.Accepts v w) :
    IsVersion w := by
  obtain ⟨s, rfl, -⟩ := h.isName hsort hempty hnull
  exact ⟨s, rfl, isNumeral_of_flaws (h.of_ne_null nofun).2.1 hempty hnumber⟩

theorem Rule.Accepts.isDuration {default : String} (h : (durationRule default).Accepts v w) :
    IsDuration w := by
  obtain ⟨hholds, hflaws, -⟩ := h.of_ne_null (h.ne_null rfl)
  obtain ⟨s, rfl⟩ := ValueSort.text_of_holds hholds
  obtain ⟨seconds, hs⟩ := parseDuration_of_flaws hflaws rfl rfl
  exact ⟨s, seconds, rfl, hs⟩

theorem Rule.Accepts.isFlag (hsort : rule.sort = .boolean) (hnull : rule.nullable = false)
    (h : rule.Accepts v w) : IsFlag w :=
  ValueSort.flag_of_holds (hsort ▸ (h.of_ne_null (h.ne_null hnull)).1)

theorem Rule.Accepts.isMapping (hsort : rule.sort = .mapping) (hnull : rule.nullable = false)
    (h : rule.Accepts v w) : IsMapping w :=
  ValueSort.mapping_of_holds (hsort ▸ (h.of_ne_null (h.ne_null hnull)).1)

theorem Rule.Accepts.isCount (hsort : rule.sort = .integer) (hnull : rule.nullable = false)
    (hleast : rule.minimum = some 0) (h : rule.Accepts v w) : IsCount w := by
  obtain ⟨hholds, hflaws, -⟩ := h.of_ne_null (h.ne_null hnull)
  rw [hsort] at hholds
  obtain ⟨n, hn⟩ := ValueSort.integer_of_holds hholds
  refine ⟨n, hn, ?_⟩
  have := not_less_of_flaws hflaws hleast hn
  simpa [Number.less, Number.compare?, Number.ratio?, Int.compare_eq_lt] using this

/-! ## Labels -/

theorem labelsRule_keepsTexts (h : labelsRule.Accepts v w) (hv : v ≠ .null) :
    KeptAsTexts v w := by
  have hinside := h.inside_of_ne_null rfl hv
  obtain ⟨completed, rfl⟩ := h.isMapping rfl rfl
  cases v with
  | map entries =>
      obtain ⟨entries₁, entries₂, hvalues, hfields, hw⟩ := Rule.inside_map_eq_nil_iff.1 hinside
      cases hw
      cases hfields
      have hall := completeValues_eq_nil_iff.1 hvalues
      refine ⟨entries, rfl, congrArg Value.map ?_⟩
      clear hvalues hinside h hv
      induction hall with
      | nil => rfl
      | @cons e e' _ _ hentry _ ih =>
          obtain ⟨hkey, hvalue⟩ := hentry
          have htext := hvalue.text_of_toText rfl
          rw [Rule.substitute_of_no_default rfl] at htext
          rw [List.map_cons, ← ih]
          exact congrArg (· :: _) (Prod.ext hkey htext)
  | list vs =>
      obtain ⟨ws, -, hw⟩ := Rule.inside_list_eq_nil_iff.1 hinside
      cases hw
  | tuple vs =>
      obtain ⟨ws, -, hw⟩ := Rule.inside_tuple_eq_nil_iff.1 hinside
      cases hw
  | _ => cases hinside

theorem labelsRule_isLabels (h : labelsRule.Accepts v w) : IsLabels w := by
  obtain ⟨entries, rfl⟩ := h.isMapping rfl rfl
  obtain ⟨hfound, -⟩ := List.append_eq_nil_iff.1 (h.of_ne_null nofun).2.2
  obtain ⟨hkeys, hvalues⟩ := List.append_eq_nil_iff.1 hfound
  refine ⟨entries.map fun (k, v) => (k.display, v.display), congrArg Value.map ?_⟩
  rw [List.map_map]
  refine (List.map_id _).symm.trans (List.map_congr_left ?_)
  rintro ⟨k, v⟩ mem
  obtain ⟨s, rfl⟩ := Rule.text_of_findings rfl rfl (findings_of_keyFindings hkeys mem)
  obtain ⟨t, rfl⟩ := Rule.text_of_findings rfl rfl (findings_of_valueFindings hvalues mem)
  rfl

/-! ## Lists -/

theorem KeptInOrder.imp {keeps keeps' : Value → Value → Prop} (h : KeptInOrder keeps v w)
    (himp : ∀ v w, keeps v w → keeps' v w) : KeptInOrder keeps' v w := by
  cases h with
  | list all => exact .list (all.imp himp)
  | tuple all => exact .tuple (all.imp himp)
  | noBytes => exact .noBytes

theorem KeptInOrder.each {keeps : Value → Value → Prop} {form : Value → Prop}
    (h : KeptInOrder keeps v w) (hform : ∀ v w, keeps v w → form w) : Each form w := by
  cases h with
  | list all =>
      refine .list fun w mem => ?_
      obtain ⟨v, -, hvw⟩ := exists_left_of_mem all mem
      exact hform v w hvw
  | tuple all =>
      refine .tuple fun w mem => ?_
      obtain ⟨v, -, hvw⟩ := exists_left_of_mem all mem
      exact hform v w hvw
  | noBytes => exact .noBytes

theorem eq_of_forall₂ {α : Type} {as bs : List α} (h : List.Forall₂ (fun a b => b = a) as bs) :
    bs = as := by
  induction h with
  | nil => rfl
  | cons heq _ ih => rw [heq, ih]

theorem KeptInOrder.eq (h : KeptInOrder (fun v w => w = v) v w) : w = v := by
  cases h with
  | list all => rw [eq_of_forall₂ all]
  | tuple all => rw [eq_of_forall₂ all]
  | noBytes => rfl

/-- What a rule of lists accepts is a sequence whose items the rule of the items accepts, if
that accepts no number, as which the items of bytes count. -/
theorem Rule.Accepts.items {r : Rule} (hsort : rule.sort = .list) (hnull : rule.nullable = false)
    (htext : rule.convertsToText = false) (hitems : rule.items = some r)
    (noNumber : ∀ n, r.findings (.int n) ≠ []) (h : rule.Accepts v w) :
    ∃ u, (v ≠ .null → u = v) ∧ KeptInOrder r.Accepts u w := by
  obtain ⟨u, hstart, hinside⟩ := Rule.complete_eq_nil_iff.1 (h.completes .null)
  obtain ⟨hholds, -, hfound⟩ := h.of_ne_null (h.ne_null hnull)
  refine ⟨u, fun hv => ?_, ?_⟩
  · rw [Rule.start, Rule.substitute_of_ne_null hv] at hstart
    rcases Rule.convert_eq_nil hstart with ⟨hc, -⟩ | ⟨-, -, hu⟩
    · simp [htext] at hc
    · exact hu hv
  · rw [hsort] at hholds
    cases u with
    | list vs =>
        obtain ⟨ws, hws, rfl⟩ := Rule.inside_list_eq_nil_iff.1 hinside
        rw [hitems] at hws
        rw [Rule.findingsInside, hitems] at hfound
        exact .list (accepts_of_items hws hfound)
    | tuple vs =>
        obtain ⟨ws, hws, rfl⟩ := Rule.inside_tuple_eq_nil_iff.1 hinside
        rw [hitems] at hws
        rw [Rule.findingsInside, hitems] at hfound
        exact .tuple (accepts_of_items hws hfound)
    | map entries =>
        obtain ⟨_, _, -, -, rfl⟩ := Rule.inside_map_eq_nil_iff.1 hinside
        cases hholds
    | bytes data =>
        cases hinside
        rw [Rule.findingsInside, hitems] at hfound
        cases data with
        | nil => exact .noBytes
        | cons b data =>
            exact absurd (findings_of_itemFindings hfound List.mem_cons_self) (noNumber _)
    | _ =>
        cases hinside
        cases hholds

/-! ## Records -/

/-- A rule of mappings with certain fields. -/
structure Rule.IsRecord (rule : Rule) (rules : List (String × Rule)) : Prop where
  sort : rule.sort = .mapping
  nullable : rule.nullable = false
  default : rule.default = none
  conversion : rule.conversion = none
  keys : rule.keys = none
  values : rule.values = none
  items : rule.items = none
  fields : rule.fields = some rules
  distinct : (rules.map (·.1)).Nodup

theorem Rule.IsRecord.settled {rules : List (String × Rule)} (record : rule.IsRecord rules)
    (settled : ∀ field ∈ rules, field.2.Settled) : rule.Settled := by
  refine Rule.settled_of_parts ?_ ?_ ?_
  · simp [record.values]
  · simp [record.items]
  · rintro rs hrs
    cases record.fields.symm.trans hrs
    exact ⟨record.distinct, settled⟩

theorem Rule.IsRecord.entries {rules : List (String × Rule)} (record : rule.IsRecord rules)
    (h : rule.Accepts v w) :
    ∃ entries completed : Entries, v = .map entries ∧ w = .map completed ∧
      completeEach rules entries = (completed, []) ∧
      fieldFindings (some rules) completed = [] := by
  have hv := h.given_ne_null record.nullable record.default record.conversion
  have hinside := h.inside_of_ne_null (by simp [Rule.convertsToText, record.conversion]) hv
  obtain ⟨completed, rfl⟩ := h.isMapping record.sort record.nullable
  cases v with
  | map entries =>
      obtain ⟨entries₁, entries₂, hvalues, hfields, hw⟩ := Rule.inside_map_eq_nil_iff.1 hinside
      cases hw
      rw [record.values, completeValues] at hvalues
      cases hvalues
      rw [record.fields, completeFields] at hfields
      have hfound := (List.append_eq_nil_iff.1 (h.of_ne_null (by simp)).2.2).2
      rw [record.fields] at hfound
      exact ⟨entries, completed, rfl, rfl, hfields, hfound⟩
  | list vs =>
      obtain ⟨ws, -, hw⟩ := Rule.inside_list_eq_nil_iff.1 hinside
      cases hw
  | tuple vs =>
      obtain ⟨ws, -, hw⟩ := Rule.inside_tuple_eq_nil_iff.1 hinside
      cases hw
  | _ => cases hinside

/-- Every field of an accepted mapping is there if it is required or has a default, in the
form that its rule gives it. -/
theorem Rule.IsRecord.hasFields {rules : List (String × Rule)}
    {forms : List (String × (Value → Prop))} (record : rule.IsRecord rules)
    (table : List.Forall₂ (fun field form => form.1 = field.1 ∧
      (field.2.required = true ∨ field.2.default.isSome = true) ∧
      ∀ v w, field.2.Accepts v w → form.2 w) rules forms)
    (h : rule.Accepts v w) : HasFields forms w := by
  obtain ⟨entries, completed, -, rfl, hfields, hfound⟩ := record.entries h
  refine ⟨completed, rfl, fun form mem => ?_⟩
  obtain ⟨⟨name, r⟩, hrule, hname, hthere, hform⟩ := exists_left_of_mem table mem
  rw [hname]
  rcases accepts_of_field record.distinct hfields hfound hrule with
    ⟨hgiven, hnone⟩ | ⟨v, w, -, hget, haccepts⟩
  · have hdefault := (Option.or_eq_none_iff.1 hgiven).2
    have hrequired := (findings_of_fieldFindings hfound hrule).2 hnone
    simp [hdefault, hrequired] at hthere
  · exact ⟨w, hget, hform v w haccepts⟩

/-- What is given under a key of an accepted mapping and not null is kept as the rule of that
key keeps it. -/
theorem Rule.IsRecord.keepsFields {rules : List (String × Rule)}
    {keeps : List (String × (Value → Value → Prop))} (record : rule.IsRecord rules)
    (table : List.Forall₂ (fun field keep => keep.1 = field.1 ∧
      ∀ v w, field.2.Accepts v w → v ≠ .null → keep.2 v w) rules keeps)
    (h : rule.Accepts v w) : KeepsFields keeps v w := by
  obtain ⟨entries, completed, rfl, rfl, hfields, hfound⟩ := record.entries h
  refine ⟨entries, completed, rfl, rfl, fun key mem => ?_, fun keep mem v hv hnull => ?_⟩
  · have hnames : keeps.map (·.1) = rules.map (·.1) :=
      eq_of_forall₂ (List.forall₂_map_left_iff.2
        (List.forall₂_map_right_iff.2 (table.imp fun _ _ h => h.1)))
    have hkey : key ∈ (completeEach rules entries).1.keys := mem_keys_completeEach mem
    rw [hfields] at hkey
    rw [hnames]
    exact known_of_fieldFindings hfound hkey
  · obtain ⟨⟨name, r⟩, hrule, hname, hkeep⟩ := exists_left_of_mem table mem
    rw [hname] at hv ⊢
    rcases accepts_of_field record.distinct hfields hfound hrule with
      ⟨hgiven, -⟩ | ⟨v', w, hgiven, hget, haccepts⟩
    · rw [Rule.given, hv] at hgiven
      cases hgiven
    · rw [Rule.given, hv, Option.some_or] at hgiven
      cases hgiven
      exact ⟨w, hget, hkeep v w haccepts hnull⟩

end

/-! ## The rules of the configuration -/

section

variable {v w : Value}

theorem labelsRule_settled : labelsRule.Settled := by
  refine Rule.settled_of_parts ?_ nofun nofun
  rintro r ⟨⟩
  exact ⟨Rule.IsLeaf.settled ⟨rfl, rfl, rfl⟩, rfl⟩

theorem listRule_settled {items : Rule} (settled : items.Settled) :
    (listRule items).Settled := by
  refine Rule.settled_of_parts nofun ?_ nofun
  rintro r ⟨⟩
  exact ⟨settled, rfl⟩

theorem functionTemplates_items (h : (listRule nameRule).Accepts v w) :
    ∃ u, (v ≠ .null → u = v) ∧ KeptInOrder nameRule.Accepts u w :=
  h.items rfl rfl rfl rfl (by simp [Rule.findings, nameRule, ValueSort.holds])

theorem functionTemplates_each (h : (listRule nameRule).Accepts v w) : Each IsName w := by
  obtain ⟨u, -, hu⟩ := functionTemplates_items h
  exact hu.each fun v w h => h.isName rfl rfl rfl

theorem functionTemplates_kept (h : (listRule nameRule).Accepts v w) (hv : v ≠ .null) : w = v := by
  obtain ⟨u, huv, hu⟩ := functionTemplates_items h
  rw [← huv hv]
  exact (hu.imp fun v w h => h.kept ⟨rfl, rfl, rfl⟩ rfl (h.given_ne_null rfl rfl rfl)).eq

/-! ### Objects -/

theorem objectRule_record : objectRule.IsRecord objectFields :=
  ⟨rfl, rfl, rfl, rfl, rfl, rfl, rfl, rfl, by decide⟩

theorem objectRule_settled : objectRule.Settled := by
  refine Rule.IsRecord.settled objectRule_record ?_
  simp only [objectFields, List.forall_mem_cons]
  refine ⟨?_, ?_, ?_, List.forall_mem_nil _⟩
  all_goals exact Rule.IsLeaf.settled ⟨rfl, rfl, rfl⟩

theorem objectRule_isObject (h : objectRule.Accepts v w) : IsObject w := by
  refine Rule.IsRecord.hasFields objectRule_record ?_ h
  refine .cons ⟨rfl, Or.inl rfl, fun _ _ h => h.isName rfl rfl rfl⟩ ?_
  refine .cons ⟨rfl, Or.inr rfl, fun _ _ h => h.isCount rfl rfl rfl⟩ ?_
  exact .cons ⟨rfl, Or.inr rfl, fun _ _ h => h.isMapping rfl rfl⟩ .nil

theorem objectRule_keepsObject (h : objectRule.Accepts v w) : KeepsObject v w := by
  refine Rule.IsRecord.keepsFields objectRule_record ?_ h
  refine .cons ⟨rfl, fun _ _ h => h.kept ⟨rfl, rfl, rfl⟩ rfl⟩ ?_
  refine .cons ⟨rfl, fun _ _ h => h.kept ⟨rfl, rfl, rfl⟩ rfl⟩ ?_
  exact .cons ⟨rfl, fun _ _ h => h.kept ⟨rfl, rfl, rfl⟩ rfl⟩ .nil

theorem objects_items (h : (listRule objectRule).Accepts v w) :
    ∃ u, (v ≠ .null → u = v) ∧ KeptInOrder objectRule.Accepts u w :=
  h.items rfl rfl rfl rfl (by simp [Rule.findings, objectRule, ValueSort.holds])

theorem objects_each (h : (listRule objectRule).Accepts v w) : Each IsObject w := by
  obtain ⟨u, -, hu⟩ := objects_items h
  exact hu.each fun _ _ => objectRule_isObject

theorem objects_kept (h : (listRule objectRule).Accepts v w) (hv : v ≠ .null) :
    KeptInOrder KeepsObject v w := by
  obtain ⟨u, huv, hu⟩ := objects_items h
  rw [← huv hv]
  exact hu.imp fun _ _ => objectRule_keepsObject

/-! ### Jobs -/

theorem jobRule_record : jobRule.IsRecord jobFields :=
  ⟨rfl, rfl, rfl, rfl, rfl, rfl, rfl, rfl, by decide⟩

theorem jobRule_settled : jobRule.Settled := by
  have nameRule_settled : nameRule.Settled := Rule.IsLeaf.settled ⟨rfl, rfl, rfl⟩
  refine Rule.IsRecord.settled jobRule_record ?_
  simp only [jobFields, List.forall_mem_cons]
  refine ⟨?_, ?_, ?_, ?_, labelsRule_settled, labelsRule_settled, labelsRule_settled,
    listRule_settled nameRule_settled, listRule_settled objectRule_settled, List.forall_mem_nil _⟩
  all_goals exact Rule.IsLeaf.settled ⟨rfl, rfl, rfl⟩

theorem jobRule_isJob (h : jobRule.Accepts v w) : IsJob w := by
  refine Rule.IsRecord.hasFields jobRule_record ?_ h
  refine .cons ⟨rfl, Or.inl rfl, fun _ _ h => h.isName rfl rfl rfl⟩ ?_
  refine .cons ⟨rfl, Or.inr rfl, fun _ _ h => h.isOptionalName rfl rfl⟩ ?_
  refine .cons ⟨rfl, Or.inr rfl, fun _ _ h => h.isFlag rfl rfl⟩ ?_
  refine .cons ⟨rfl, Or.inr rfl, fun _ _ h => h.isDuration⟩ ?_
  refine .cons ⟨rfl, Or.inr rfl, fun _ _ => labelsRule_isLabels⟩ ?_
  refine .cons ⟨rfl, Or.inr rfl, fun _ _ => labelsRule_isLabels⟩ ?_
  refine .cons ⟨rfl, Or.inr rfl, fun _ _ => labelsRule_isLabels⟩ ?_
  refine .cons ⟨rfl, Or.inr rfl, fun _ _ => functionTemplates_each⟩ ?_
  exact .cons ⟨rfl, Or.inr rfl, fun _ _ => objects_each⟩ .nil

theorem jobRule_keepsJob (h : jobRule.Accepts v w) : KeepsJob v w := by
  refine Rule.IsRecord.keepsFields jobRule_record ?_ h
  refine .cons ⟨rfl, fun _ _ h => h.kept ⟨rfl, rfl, rfl⟩ rfl⟩ ?_
  refine .cons ⟨rfl, fun _ _ h => h.kept ⟨rfl, rfl, rfl⟩ rfl⟩ ?_
  refine .cons ⟨rfl, fun _ _ h => h.kept ⟨rfl, rfl, rfl⟩ rfl⟩ ?_
  refine .cons ⟨rfl, fun _ _ h => h.keptAsText rfl⟩ ?_
  refine .cons ⟨rfl, fun _ _ => labelsRule_keepsTexts⟩ ?_
  refine .cons ⟨rfl, fun _ _ => labelsRule_keepsTexts⟩ ?_
  refine .cons ⟨rfl, fun _ _ => labelsRule_keepsTexts⟩ ?_
  refine .cons ⟨rfl, fun _ _ => functionTemplates_kept⟩ ?_
  exact .cons ⟨rfl, fun _ _ => objects_kept⟩ .nil

/-! ### Configurations -/

/-- The rule of the jobs of a configuration, of which there has to be one. -/
abbrev jobsRule : Rule :=
  { sort := .list, required := true, allowsEmpty := false, items := some jobRule }

theorem jobs_items (h : jobsRule.Accepts v w) :
    ∃ u, (v ≠ .null → u = v) ∧ KeptInOrder jobRule.Accepts u w :=
  h.items rfl rfl rfl rfl (by simp [Rule.findings, jobRule, ValueSort.holds])

theorem jobs_each (h : jobsRule.Accepts v w) : Each IsJob w := by
  obtain ⟨u, -, hu⟩ := jobs_items h
  exact hu.each fun _ _ => jobRule_isJob

theorem jobs_kept (h : jobsRule.Accepts v w) (hv : v ≠ .null) : KeptInOrder KeepsJob v w := by
  obtain ⟨u, huv, hu⟩ := jobs_items h
  rw [← huv hv]
  exact hu.imp fun _ _ => jobRule_keepsJob

theorem jobsRule_settled : jobsRule.Settled := by
  refine Rule.settled_of_parts nofun ?_ nofun
  rintro r ⟨⟩
  exact ⟨jobRule_settled, rfl⟩

theorem schema_record : schema.IsRecord configurationFields :=
  ⟨rfl, rfl, rfl, rfl, rfl, rfl, rfl, rfl, by decide⟩

theorem schema_settled : schema.Settled := by
  refine Rule.IsRecord.settled schema_record ?_
  simp only [configurationFields, List.forall_mem_cons]
  refine ⟨?_, ?_, ?_, ?_, jobsRule_settled, List.forall_mem_nil _⟩
  all_goals exact Rule.IsLeaf.settled ⟨rfl, rfl, rfl⟩

theorem schema_isConfiguration (h : schema.Accepts v w) : IsConfiguration w := by
  refine Rule.IsRecord.hasFields schema_record ?_ h
  refine .cons ⟨rfl, Or.inl rfl, fun _ _ h => h.isVersion rfl rfl rfl rfl⟩ ?_
  refine .cons ⟨rfl, Or.inr rfl, fun _ _ h => h.isOptionalName rfl rfl⟩ ?_
  refine .cons ⟨rfl, Or.inr rfl, fun _ _ h => h.isOptionalName rfl rfl⟩ ?_
  refine .cons ⟨rfl, Or.inr rfl, fun _ _ h => h.isDuration⟩ ?_
  exact .cons ⟨rfl, Or.inl rfl, fun _ _ => jobs_each⟩ .nil

theorem schema_keepsConfiguration (h : schema.Accepts v w) : KeepsConfiguration v w := by
  refine Rule.IsRecord.keepsFields schema_record ?_ h
  refine .cons ⟨rfl, fun _ _ h => h.keptAsText rfl⟩ ?_
  refine .cons ⟨rfl, fun _ _ h => h.kept ⟨rfl, rfl, rfl⟩ rfl⟩ ?_
  refine .cons ⟨rfl, fun _ _ h => h.kept ⟨rfl, rfl, rfl⟩ rfl⟩ ?_
  refine .cons ⟨rfl, fun _ _ h => h.keptAsText rfl⟩ ?_
  exact .cons ⟨rfl, fun _ _ => jobs_kept⟩ .nil

end

section

variable {entries : Entries} {options : Value}

/-- A mapping is accepted if nothing in it is taken for a rule and its rule accepts it. -/
theorem complete_eq_ok_iff :
    complete entries = .ok options ↔
      schema.isConfusedBy (.map entries) = false ∧ schema.Accepts (.map entries) options := by
  unfold complete
  split
  · next h => simp [h]
  · next h =>
      have hvalidate : schema.validate rootKey (.map entries) = (options, []) ↔
          schema.Accepts (.map entries) options := Rule.validate_eq_nil_iff
      rw [← hvalidate]
      split
      · next heq => simp [h, heq]
      · next v found hfound heq =>
          constructor
          · intro hc
            split at hc <;> cases hc
          · rintro ⟨-, hv⟩
            cases heq.symm.trans hv
            exact absurd rfl hfound

/-- An accepted configuration is complete and accepted again as it is, and nothing that was
given is lost. -/
theorem complete_settled (h : complete entries = .ok options) :
    ∃ completed, options = .map completed ∧ complete completed = .ok options ∧
      IsConfiguration options ∧ KeepsConfiguration (.map entries) options := by
  obtain ⟨-, h⟩ := complete_eq_ok_iff.1 h
  obtain ⟨-, completed, -, rfl, -⟩ := Rule.IsRecord.entries schema_record h
  obtain ⟨stable, clear⟩ := schema_settled
  exact ⟨completed, rfl, complete_eq_ok_iff.2 ⟨clear h.sound, stable h⟩,
    schema_isConfiguration h, schema_keepsConfiguration h⟩

end

/-- A configuration that says as little as it can, and some of it with other values than
texts. -/
def sparse : Entries :=
  [(.text versionKey, .int 1),
    (.text "jobs", .list
      [.map
        [(.text "name", .text "a"), (.text "preLoadPeriod", .int 0),
          (.text "namespaceLabels", .map [(.text "x", .null)]),
          (.text "objects", .list
            [.map [(.text "objectTemplate", .text "t.yml"), (.text "inputVars", .null)]])]])]

theorem complete_sparse_settled :
    ∃ options, complete sparse = .ok options ∧
      ∃ completed, options = .map completed ∧ complete completed = .ok options ∧
        IsConfiguration options ∧ KeepsConfiguration (.map sparse) options := by
  have hok : (complete sparse).isOk = true := by decide +kernel
  cases hsparse : complete sparse with
  | ok options => exact ⟨options, rfl, complete_settled hsparse⟩
  | error e =>
      rw [hsparse] at hok
      cases hok

end ImagePreload.Config
