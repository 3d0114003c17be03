import ImagePreload.Proofs.DocumentSlips
import ImagePreload.Proofs.Selection

/-!
# Why a configuration cannot be loaded

Whatever a text or a file holds, loading it gives a configuration or a failure, and
nearly all failures are faults of the configuration: a text that is no document, a
document that is no mapping, a version that is missing, no number or not supported,
and everything that breaks a rule.

The exceptions are numbers with too many digits, and mappings that are taken for
rules (`Slip`). An integer with too many digits cannot be written, so it can be
neither a version nor a part of what is loaded; a version of too many digits cannot
be read; and a finding under such a key cannot be told. These are all the ways in
which loading fails otherwise than with a fault of the configuration, and each of
them does (`load_failure_iff`).
-/

namespace ImagePreload.Config

/-- A document states the version that is supported. -/
def Supported (document : Value) : Prop :=
  ∃ version digits, document.field? versionKey = some version ∧ version.isTooLong = false ∧
    version.display.toList.mapM Text.digitValue? = some digits ∧ digits ≠ [] ∧
    digits.length ≤ Value.digitLimit ∧ Decimal.digitsValue 10 digits = supportedVersion

/-- What is in a document that cannot be loaded for another reason than a fault of the
configuration, and what it fails with. -/
inductive Slip (document : Value) : ConfigFailure → Prop
  /-- A version with an integer that cannot be written. -/
  | longVersion {version : Value} (stated : document.field? versionKey = some version)
    (long : version.isTooLong = true) : Slip document .longInteger
  /-- A version of more digits than can be read. -/
  | manyDigits {version : Value} {digits : List Nat}
    (stated : document.field? versionKey = some version) (short : version.isTooLong = false)
    (numeral : version.display.toList.mapM Text.digitValue? = some digits)
    (many : Value.digitLimit < digits.length) : Slip document (.versionTooLong digits.length)
  /-- A mapping that is taken for a rule. -/
  | confused (supported : Supported document) (mistaken : Mistaken document) :
    Slip document .confused
  /-- Something that breaks the rules where the way to it cannot be written. Only what stands
  in front of it is told. -/
  | longKey (supported : Supported document) (clear : ¬ Mistaken document)
    (unwritable : Unwritable document) :
    Slip document
      (.longKey (errorTree ((schema.validate rootKey document).2.takeWhile Finding.isWritable)))
  /-- An integer that cannot be written, where no rule is broken. -/
  | longInteger {options : Value} (supported : Supported document) (clear : ¬ Mistaken document)
    (accepted : schema.Accepts document options) (long : document.isTooLong = true) :
    Slip document .longInteger

section

variable {document : Value} {entries : Entries} {directory text : String} {e : ConfigFailure}

theorem readVersion_eq_ok_iff {n : Nat} :
    readVersion text = .ok n ↔ ∃ digits, text.toList.mapM Text.digitValue? = some digits ∧
      digits ≠ [] ∧ digits.length ≤ Value.digitLimit ∧ Decimal.digitsValue 10 digits = n := by
  unfold readVersion
  split
  · next d ds hdigits =>
      split
      · next hmany =>
          refine iff_of_false nofun ?_
          rintro ⟨digits, hread, -, hfew, -⟩
          cases hdigits.symm.trans hread
          exact absurd hmany (Nat.not_lt.2 hfew)
      · next hfew =>
          constructor
          · rintro ⟨⟩
            exact ⟨d :: ds, hdigits, nofun, Nat.not_lt.1 hfew, rfl⟩
          · rintro ⟨digits, hread, -, -, rfl⟩
            cases hdigits.symm.trans hread
            rfl
  · next hdigits =>
      refine iff_of_false nofun ?_
      rintro ⟨digits, hread, hsome, -, -⟩
      cases digits with
      | nil => exact hsome rfl
      | cons d ds => exact hdigits d ds hread

theorem readVersion_error (h : readVersion text = .error e) (hkind : e.kind ≠ .own .configuration) :
    ∃ digits, text.toList.mapM Text.digitValue? = some digits ∧
      Value.digitLimit < digits.length ∧ e = .versionTooLong digits.length := by
  unfold readVersion at h
  split at h
  · next d ds hdigits =>
      split at h
      · next hmany =>
          cases h
          exact ⟨d :: ds, hdigits, hmany, rfl⟩
      · cases h
  · cases h
    exact absurd rfl hkind

theorem readVersion_of_manyDigits {digits : List Nat}
    (hdigits : text.toList.mapM Text.digitValue? = some digits)
    (hmany : Value.digitLimit < digits.length) :
    readVersion text = .error (.versionTooLong digits.length) := by
  unfold readVersion
  rw [hdigits]
  cases digits with
  | nil => cases hmany
  | cons d ds => exact if_pos hmany

theorem supported_iff :
    Supported document ↔ ∃ version, document.field? versionKey = some version ∧
      version.isTooLong = false ∧ readVersion version.display = .ok supportedVersion := by
  simp only [Supported, readVersion_eq_ok_iff, exists_and_left]

/-- Accepted are the mappings that state the supported version. -/
theorem checkVersion_eq_ok_iff :
    checkVersion document = .ok entries ↔ document = .map entries ∧ Supported document := by
  rw [supported_iff]
  constructor
  · intro h
    unfold checkVersion at h
    split at h
    · split at h
      · cases h
      · next version hversion =>
          split at h
          · cases h
          · next hshort =>
              obtain ⟨n, hread, h⟩ := bind_eq_ok.1 h
              split at h
              · next hsupported =>
                  cases h
                  cases beq_iff_eq.1 hsupported
                  exact ⟨rfl, version, hversion, by simpa using hshort, hread⟩
              · cases h
    · cases h
  · rintro ⟨rfl, version, hversion, hshort, hread⟩
    rw [Value.field?] at hversion
    simp [checkVersion, hversion, hshort, hread, bind, Except.bind, pure, Except.pure]

/-- The version of a mapping fails to be read only for its digits. -/
theorem checkVersion_error (h : checkVersion document = .error e)
    (hkind : e.kind ≠ .own .configuration) : Slip document e := by
  unfold checkVersion at h
  split at h
  · next entries =>
      split at h
      · cases h
        exact absurd rfl hkind
      · next version hversion =>
          split at h
          · next hlong =>
              cases h
              exact .longVersion hversion hlong
          · next hshort =>
              rcases bind_eq_error h with h | ⟨n, -, h⟩
              · obtain ⟨digits, hdigits, hmany, rfl⟩ := readVersion_error h hkind
                exact .manyDigits hversion (by simpa using hshort) hdigits hmany
              · split at h
                · cases h
                · cases h
                  exact absurd rfl hkind
  · cases h
    exact absurd rfl hkind

/-- Validation tells of something on a way that cannot be written where there is one. -/
theorem validate_unwritable_iff :
    (schema.validate rootKey document).2.all Finding.isWritable = false ↔ Unwritable document := by
  rw [← hidden_iff_all, Rule.validate_found, rootKey, hidden_under_text]
  exact schema_hidesWhen _ document

theorem complete_error (supported : Supported (.map entries)) (h : complete entries = .error e)
    (hkind : e.kind ≠ .own .configuration) : Slip (.map entries) e := by
  unfold complete at h
  split at h
  · next hconfused =>
      cases h
      exact .confused supported ((schema_confusedWhen _).1 hconfused)
  · next hclear =>
      split at h
      · cases h
      · next options found _ hvalidated =>
          split at h
          · cases h
            exact absurd rfl hkind
          · next hunwritable =>
              obtain rfl : (schema.validate rootKey (.map entries)).2 = found := by rw [hvalidated]
              cases h
              exact .longKey supported (fun h => hclear ((schema_confusedWhen _).2 h))
                (validate_unwritable_iff.1 (by simpa using hunwritable))

theorem ofDocument_error (h : ofDocument directory document = .error e)
    (hkind : e.kind ≠ .own .configuration) : Slip document e := by
  rcases bind_eq_error h with hversion | ⟨entries, hversion, h⟩
  · exact checkVersion_error hversion hkind
  rcases bind_eq_error h with hcomplete | ⟨options, hcomplete, hlong⟩
  · obtain ⟨rfl, supported⟩ := checkVersion_eq_ok_iff.1 hversion
    exact complete_error supported hcomplete hkind
  · obtain ⟨rfl, supported⟩ := checkVersion_eq_ok_iff.1 hversion
    obtain ⟨hclear, accepted⟩ := complete_eq_ok_iff.1 hcomplete
    dsimp only at hlong
    split at hlong
    · next long =>
        cases hlong
        refine .longInteger supported (fun h => ?_) accepted ?_
        · rw [(schema_confusedWhen _).2 h] at hclear
          cases hclear
        · rwa [← schema_keepsLength.completes accepted.completes]
    · cases hlong

theorem Slip.kind_ne (h : Slip document e) : e.kind ≠ .own .configuration := by
  cases h <;> exact nofun

theorem Slip.exists_mapping (h : Slip document e) :
    ∃ (entries : Entries) (version : Value), document = .map entries ∧
      entries.get? (.text versionKey) = some version := by
  have stated : ∃ version, document.field? versionKey = some version := by
    cases h with
    | longVersion stated _ => exact ⟨_, stated⟩
    | manyDigits stated _ _ _ => exact ⟨_, stated⟩
    | confused supported _ | longKey supported _ _ | longInteger supported _ _ _ =>
        obtain ⟨version, -, stated, -⟩ := supported
        exact ⟨version, stated⟩
  obtain ⟨version, stated⟩ := stated
  cases document with
  | map entries => exact ⟨entries, version, rfl, stated⟩
  | _ => cases stated

theorem ofDocument_of_slip (h : Slip document e) : ofDocument directory document = .error e := by
  obtain ⟨entries, -, rfl, -⟩ := h.exists_mapping
  have fails (supported : Supported (.map entries))
      (h : complete entries = .error e) : ofDocument directory (.map entries) = .error e := by
    unfold ofDocument
    rw [checkVersion_eq_ok_iff.2 ⟨rfl, supported⟩]
    show (complete entries >>= _) = _
    rw [h]
    rfl
  have clear (h : ¬ Mistaken (.map entries)) : schema.isConfusedBy (.map entries) = false :=
    Bool.eq_false_iff.2 fun hconfused => h ((schema_confusedWhen _).1 hconfused)
  cases h with
  | longVersion stated long =>
      rw [Value.field?] at stated
      unfold ofDocument checkVersion
      simp [stated, long, bind, Except.bind, throw, throwThe, MonadExceptOf.throw]
  | manyDigits stated short numeral many =>
      rw [Value.field?] at stated
      unfold ofDocument checkVersion
      simp [stated, short, readVersion_of_manyDigits numeral many, bind, Except.bind]
  | confused supported mistaken =>
      refine fails supported ?_
      rw [complete, if_pos ((schema_confusedWhen _).2 mistaken)]
  | longKey supported hclear unwritable =>
      refine fails supported ?_
      have hall := validate_unwritable_iff.2 unwritable
      rw [complete, clear hclear]
      generalize schema.validate rootKey (.map entries) = validated at hall ⊢
      obtain ⟨options, found⟩ := validated
      cases found with
      | nil => cases hall
      | cons f found => simp [hall]
  | longInteger supported hclear accepted long =>
      have hcomplete := complete_eq_ok_iff.2 ⟨clear hclear, accepted⟩
      rw [← schema_keepsLength.completes accepted.completes] at long
      unfold ofDocument
      simp [checkVersion_eq_ok_iff.2 ⟨rfl, supported⟩, hcomplete, long, bind, Except.bind, throw,
        throwThe, MonadExceptOf.throw]

/-! ## Texts and files -/

theorem not_slip_null : ¬ Slip .null e := by
  intro h
  obtain ⟨_, _, hmap, -⟩ := h.exists_mapping
  cases hmap

theorem Slip.truthy (h : Slip document e) : document.truthy = true := by
  obtain ⟨entries, version, rfl, hversion⟩ := h.exists_mapping
  cases entries with
  | nil => cases hversion
  | cons e entries => rfl

theorem someDocument_of_ne_null (origin : ConfigOrigin) (h : document ≠ .null) :
    someDocument origin document = .ok document := by
  unfold someDocument
  split
  · exact absurd rfl h
  · rfl

variable {files : Files}

theorem someDocument_error {origin : ConfigOrigin} (h : someDocument origin document = .error e) :
    e = .empty origin := by
  unfold someDocument at h
  split at h
  · cases h
    rfl
  · cases h

theorem ofText_foreign_iff :
    (ofText files text = .error e ∧ e.kind ≠ .own .configuration) ↔
      ∃ document, Yaml.load text = .ok document ∧ Slip document e := by
  constructor
  · rintro ⟨h, hkind⟩
    rcases bind_eq_error h with h | ⟨document, hload, h⟩
    · obtain ⟨_, -, rfl⟩ := mapError_eq_error h
      exact absurd rfl hkind
    rcases bind_eq_error h with h | ⟨document', hsome, h⟩
    · obtain rfl := someDocument_error h
      exact absurd rfl hkind
    have hne : document ≠ .null := by
      rintro rfl
      cases hsome
    cases (someDocument_of_ne_null .text hne).symm.trans hsome
    exact ⟨document, mapError_eq_ok.1 hload, ofDocument_error h hkind⟩
  · rintro ⟨document, hload, hslip⟩
    have hne : document ≠ .null := fun hnull => not_slip_null (hnull ▸ hslip)
    refine ⟨?_, hslip.kind_ne⟩
    unfold ofText
    rw [hload]
    show (someDocument .text document >>= _) = _
    rw [someDocument_of_ne_null .text hne]
    exact ofDocument_of_slip hslip

theorem readDocument_error {path : String} (h : readDocument files path = .error e) :
    e.kind = .own .configuration := by
  rcases bind_eq_error h with h | ⟨text, -, h⟩
  · obtain ⟨_, -, rfl⟩ := mapError_eq_error h
    rfl
  rcases bind_eq_error h with h | ⟨document, -, h⟩
  · obtain ⟨_, -, rfl⟩ := mapError_eq_error h
    rfl
  · rw [someDocument_error h]
    rfl

theorem readDocument_eq_ok {path : String} :
    readDocument files path = .ok document ↔ document ≠ .null ∧
      ∃ text, files.readText path = .ok text ∧ Yaml.load text = .ok document := by
  constructor
  · intro h
    obtain ⟨text, htext, h⟩ := bind_eq_ok.1 h
    obtain ⟨document', hload, h⟩ := bind_eq_ok.1 h
    have hne : document' ≠ .null := by
      rintro rfl
      cases h
    cases (someDocument_of_ne_null _ hne).symm.trans h
    exact ⟨hne, text, mapError_eq_ok.1 htext, mapError_eq_ok.1 hload⟩
  · rintro ⟨hne, text, htext, hload⟩
    unfold readDocument
    rw [htext, bind_eq_ok]
    refine ⟨text, rfl, ?_⟩
    rw [hload, bind_eq_ok]
    exact ⟨document, rfl, someDocument_of_ne_null _ hne⟩

theorem ofPlaces_foreign_iff {places : List String} :
    (ofPlaces files places = .error e ∧ e.kind ≠ .own .configuration) ↔
      ∃ path text document, places.find? files.isFile = some path ∧
        files.readText path = .ok text ∧ Yaml.load text = .ok document ∧ Slip document e := by
  constructor
  · rintro ⟨h, hkind⟩
    unfold ofPlaces at h
    split at h
    · cases h
      exact absurd rfl hkind
    · next path hfind =>
        rcases bind_eq_error h with h | ⟨document, hread, h⟩
        · exact absurd (readDocument_error h) hkind
        · obtain ⟨-, text, htext, hload⟩ := readDocument_eq_ok.1 hread
          split at h
          · exact ⟨path, text, document, hfind, htext, hload, ofDocument_error h hkind⟩
          · cases h
            exact absurd rfl hkind
  · rintro ⟨path, text, document, hfind, htext, hload, hslip⟩
    have hne : document ≠ .null := fun hnull => not_slip_null (hnull ▸ hslip)
    refine ⟨?_, hslip.kind_ne⟩
    unfold ofPlaces
    rw [hfind]
    show (readDocument files path >>= _) = _
    rw [readDocument_eq_ok.2 ⟨hne, text, htext, hload⟩]
    show (if document.truthy then _ else _) = _
    rw [if_pos hslip.truthy]
    exact ofDocument_of_slip hslip

/-- Loading fails otherwise than with a fault of the configuration exactly if the text, or
the first file that is there, holds a document with a slip. -/
theorem load_failure_iff (files : Files) (e : ConfigFailure) :
    (∀ text, (ofText files text = .error e ∧ e.kind ≠ .own .configuration) ↔
      ∃ document, Yaml.load text = .ok document ∧ Slip document e) ∧
    ∀ places, (ofPlaces files places = .error e ∧ e.kind ≠ .own .configuration) ↔
      ∃ path text document, places.find? files.isFile = some path ∧
        files.readText path = .ok text ∧ Yaml.load text = .ok document ∧ Slip document e :=
  ⟨fun _ => ofText_foreign_iff, fun _ => ofPlaces_foreign_iff⟩

end

theorem mapM_replicate {α β : Type} {f : α → Option β} {a : α} {b : β} (h : f a = some b)
    (n : Nat) : (List.replicate n a).mapM f = some (List.replicate n b) := by
  induction n with
  | zero => rfl
  | succ n ih =>
      rw [List.replicate_succ, List.mapM_cons, h, ih]
      rfl

/-- A configuration whose version is a row of ones. -/
def onesDocument (n : Nat) : Value :=
  .map
    [(.text versionKey, .text (.ofList (List.replicate n '1'))),
      (.text "jobs", .list [.map [(.text "name", .text "j")]])]

theorem onesDocument_slips {n : Nat} (many : Value.digitLimit < n) :
    Slip (onesDocument n) (.versionTooLong n) := by
  have hnumeral : (Value.text (.ofList (List.replicate n '1'))).display.toList.mapM
      Text.digitValue? = some (List.replicate n 1) := by
    have hone : Text.digitValue? '1' = some 1 := rfl
    rw [Value.display, String.toList_ofList]
    exact mapM_replicate hone n
  have hlength : (List.replicate n 1).length = n := List.length_replicate
  have hslip : Slip (onesDocument n) (.versionTooLong (List.replicate n 1).length) :=
    .manyDigits (if_pos (by simp)) rfl hnumeral (hlength.symm ▸ many)
  rwa [hlength] at hslip

theorem ofDocument_ones :
    ofDocument "/work" (onesDocument 4301) = .error (.versionTooLong 4301) ∧
      (ConfigFailure.versionTooLong 4301).kind ≠ .own .configuration := by
  have hslip := onesDocument_slips (by decide : Value.digitLimit < 4301)
  exact ⟨ofDocument_of_slip hslip, hslip.kind_ne⟩

end ImagePreload.Config
