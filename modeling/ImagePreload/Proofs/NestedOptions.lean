import Mathlib
import ImagePreload.Proofs.Acceptance

/-!
# Options of options

A mapping that is found as an option can be asked for options of its own. It then
goes by the full name that it was found under, and whoever asks it need not know
where it came from.

Two things have to keep in step for that, and they are computed apart: the way to
the value, which is taken key by key, and the name, which is put together from
texts. Both are those of the two names with a point between them: the way because
the keys of such a name are the keys of both (`dotted_append`), the name because a
name goes in front of another one with a point (`under_append`). So asking twice is
asking once (`Section.get_nested`), in what is found and in what is said when
nothing is.
-/

namespace ImagePreload

theorem Text.splitAtChar_ne_nil (sep : Char) (cs : List Char) : splitAtChar sep cs ≠ [] := by
  cases cs with
  | nil => exact List.cons_ne_nil _ _
  | cons c cs =>
      rw [splitAtChar]
      split
      · exact List.cons_ne_nil _ _
      · split <;> exact List.cons_ne_nil _ _

theorem Text.splitAtChar_append (sep : Char) (xs ys : List Char) :
    splitAtChar sep (xs ++ sep :: ys) = splitAtChar sep xs ++ splitAtChar sep ys := by
  induction xs with
  | nil =>
      obtain ⟨part, parts, hys⟩ := List.exists_cons_of_ne_nil (splitAtChar_ne_nil sep ys)
      rw [List.nil_append, splitAtChar, splitAtChar, hys]
      exact if_pos (beq_self_eq_true sep)
  | cons x xs ih =>
      obtain ⟨part, parts, hxs⟩ := List.exists_cons_of_ne_nil (splitAtChar_ne_nil sep xs)
      rw [List.cons_append, splitAtChar, splitAtChar, ih, hxs, List.cons_append]
      dsimp only
      split
      · rfl
      · rfl

/-- The components of two names with a point between them. -/
theorem dotted_append (outer inner : String) :
    dotted (outer ++ "." ++ inner) = dotted outer ++ dotted inner := by
  have hchars : (outer ++ "." ++ inner).toList = outer.toList ++ '.' :: inner.toList := by
    simp
  rw [dotted, hchars, Text.splitAtChar_append, List.map_append, dotted, dotted]

namespace Config

theorem under_append {outer middle : String} (named : outer ≠ "" ∨ middle ≠ "")
    (inner : String) :
    under (under outer middle) inner = under outer (middle ++ "." ++ inner) := by
  unfold under
  by_cases houter : outer = ""
  · have hmiddle : middle ≠ "" := named.resolve_left fun h => h houter
    simp [houter, hmiddle]
  · have hboth : ¬ (outer ++ "." ++ middle).isEmpty = true := by simp [houter]
    simp [houter, String.append_assoc]

namespace Section

theorem follow_append (fullName : String) (v : Value) (keys more : List String) :
    follow fullName v (keys ++ more) =
      follow fullName v keys >>= fun inner => follow fullName inner more := by
  induction keys generalizing v with
  | nil => rfl
  | cons key keys ih =>
      cases v with
      | map entries =>
          rw [List.cons_append, follow, follow]
          cases Entries.get? (.text key) entries with
          | none => rfl
          | some inner => exact ih inner
      | _ => rfl

theorem follow_eq_error {fullName : String} {v : Value} {keys : List String} {e : OptionFailure}
    (h : follow fullName v keys = .error e) :
    v.at? keys = none ∧ (e = .missing fullName ∨ ∃ w, e = .notMapping w) := by
  induction keys generalizing v with
  | nil => cases h
  | cons key keys ih =>
      rw [Value.at?]
      cases v with
      | map entries =>
          rw [follow] at h
          rw [Value.field?]
          cases hkey : Entries.get? (.text key) entries with
          | none =>
              rw [hkey] at h
              cases h
              exact ⟨rfl, Or.inl rfl⟩
          | some inner =>
              rw [hkey] at h
              exact ih h
      | _ =>
          cases h
          exact ⟨rfl, Or.inr ⟨_, rfl⟩⟩

/-- What is answered once the way to an option has been followed. -/
def answer (fullName : String) (inquiry : Inquiry) :
    Except OptionFailure Value → Except OptionFailure Section
  | .error (.missing name) =>
    match inquiry.default with
    | some d => .ok ⟨d, none⟩
    | none => .error (.missing name)
  | .error e => .error e
  | .ok v =>
    match inquiry.wanted with
    | none => .ok (ofFound fullName v)
    | some wanted =>
      if wanted.holds v then .ok (ofFound fullName v)
      else .error (.wrongType fullName v.typeName wanted)

theorem get_eq_answer (s : Section) (name : String) (inquiry : Inquiry) :
    s.get name inquiry =
      answer (s.nameOf name inquiry) inquiry
        (follow (s.nameOf name inquiry) s.value (dotted name)) := by
  rw [get]
  cases follow (s.nameOf name inquiry) s.value (dotted name) with
  | ok v => rfl
  | error e =>
      cases e with
      | missing fullName => cases hdefault : inquiry.default <;> simp only [answer, hdefault]
      | _ => rfl

variable {s m : Section} {name : String} {inquiry : Inquiry}

/-- A mapping that is found goes by the name that it was asked for by. -/
theorem get_eq_ok_map {entries : Entries} (found : s.get name {} = .ok m)
    (mapping : m.value = .map entries) :
    s.value.lookup? name = some (.map entries) ∧
      m = ⟨.map entries, some (s.nameOf name {})⟩ := by
  rw [get_eq_answer] at found
  cases hfollow : follow (s.nameOf name {}) s.value (dotted name) with
  | error e =>
      rw [hfollow] at found
      cases e <;> cases found
  | ok v =>
      rw [hfollow] at found
      cases found
      cases v with
      | map entries' =>
          cases mapping
          exact ⟨follow_eq_ok.1 hfollow, rfl⟩
      | _ => cases mapping

/-- An option that can be had is what its name leads to, or the default where it leads
nowhere. -/
theorem get_eq_ok_cases (h : s.get name inquiry = .ok m) :
    (∃ v, s.value.lookup? name = some v ∧ m = ofFound (s.nameOf name inquiry) v) ∨
      ∃ d, inquiry.default = some d ∧ s.value.lookup? name = none ∧ m = ⟨d, none⟩ := by
  rw [get_eq_answer] at h
  cases hfollow : follow (s.nameOf name inquiry) s.value (dotted name) with
  | ok v =>
      rw [hfollow, answer] at h
      left
      refine ⟨v, follow_eq_ok.1 hfollow, ?_⟩
      split at h
      · cases h
        rfl
      · split at h
        · cases h
          rfl
        · cases h
  | error e =>
      obtain ⟨hnone, -⟩ := follow_eq_error hfollow
      rw [hfollow] at h
      cases e with
      | missing fullName =>
          rw [answer] at h
          split at h
          · next d hdefault =>
              cases h
              exact Or.inr ⟨d, hdefault, hnone, rfl⟩
          · cases h
      | _ => cases h

/-- An option that cannot be had is called by its full name, unless there is no mapping to
look it up in. -/
theorem get_eq_error_cases {e : OptionFailure} (h : s.get name inquiry = .error e) :
    e = .missing (s.nameOf name inquiry) ∨
      (∃ actual wanted, e = .wrongType (s.nameOf name inquiry) actual wanted) ∨
      ∃ v, e = .notMapping v := by
  rw [get_eq_answer] at h
  cases hfollow : follow (s.nameOf name inquiry) s.value (dotted name) with
  | ok v =>
      rw [hfollow, answer] at h
      split at h
      · cases h
      · next wanted _ =>
          split at h
          · cases h
          · cases h
            exact Or.inr (Or.inl ⟨_, wanted, rfl⟩)
  | error e' =>
      obtain ⟨-, he⟩ := follow_eq_error hfollow
      rw [hfollow] at h
      rcases he with rfl | ⟨v, rfl⟩
      · rw [answer] at h
        split at h
        · cases h
        · cases h
          exact Or.inl rfl
      · cases h
        exact Or.inr (Or.inr ⟨v, rfl⟩)

/-- Asking what was found for an option is asking at once with a point between the names:
the same is found, by the same full name, the same default is taken, and the same goes
wrong, told in the same words. The outer name may only be empty if it stands behind
another one. -/
theorem get_nested {outer : String} {entries : Entries}
    (named : s.fullName.getD "" ≠ "" ∨ outer ≠ "") (found : s.get outer {} = .ok m)
    (mapping : m.value = .map entries) (inner : String) (default : Option Value)
    (wanted : Option Wanted) :
    let name := outer ++ "." ++ inner
    let fullName := under (s.fullName.getD "") name
    let once := s.get name { default, wanted }
    m.get inner { default, wanted } = once ∧
      (∀ r, once = .ok r →
        (∃ v, s.value.lookup? name = some v ∧ r = ofFound fullName v) ∨
          ∃ d, default = some d ∧ s.value.lookup? name = none ∧ r = ⟨d, none⟩) ∧
      ∀ e, once = .error e →
        e = .missing fullName ∨ (∃ actual types, e = .wrongType fullName actual types) ∨
          ∃ v, e = .notMapping v := by
  intro name fullName once
  refine ⟨?_, fun r => get_eq_ok_cases, fun e => get_eq_error_cases⟩
  obtain ⟨hlookup, rfl⟩ := get_eq_ok_map found mapping
  have hname : nameOf ⟨.map entries, some (s.nameOf outer {})⟩ inner { default, wanted } =
      s.nameOf name { default, wanted } := under_append named inner
  have hway (n : String) :
      follow n s.value (dotted name) = follow n (.map entries) (dotted inner) := by
    rw [dotted_append, follow_append, follow_eq_ok.2 hlookup]
    rfl
  rw [get_eq_answer, hname, ← hway]
  exact (get_eq_answer s name { default, wanted }).symm

/-- A section with a list of names two mappings deep. -/
def deep : Section :=
  ⟨.map [(.text "jobs", .map [(.text "first", .map [(.text "names", .list [])])])], none⟩

/-- The inner mapping, found under its full name. -/
def deepInner : Section := ⟨.map [(.text "names", .list [])], some "jobs.first"⟩

theorem get_nested_list :
    (deep.fullName.getD "" ≠ "" ∨ "jobs.first" ≠ "") ∧
      deep.get "jobs.first" {} = .ok deepInner ∧
      deepInner.value = .map [(.text "names", .list [])] ∧
      deepInner.get "names" { wanted := some (.one .text) } =
        deep.get "jobs.first.names" { wanted := some (.one .text) } ∧
      deep.get "jobs.first.names" { wanted := some (.one .text) } =
        .error (.wrongType "jobs.first.names" "list" (.one .text)) := by
  have named : deep.fullName.getD "" ≠ "" ∨ "jobs.first" ≠ "" := Or.inr (by decide)
  have found : deep.get "jobs.first" {} = .ok deepInner := by cbv
  obtain ⟨hsame, -⟩ := get_nested named found rfl "names" none (some (.one .text))
  exact ⟨named, found, rfl, hsame, by cbv⟩

-- an empty name that stands behind no other is lost from what comes behind it
example :
    Section.get ⟨.map [(.text "", .map [])], none⟩ "" {} = .ok ⟨.map [], some ""⟩ ∧
      Section.get ⟨.map [], some ""⟩ "x" {} = .error (.missing "x") ∧
      Section.get ⟨.map [(.text "", .map [])], none⟩ ".x" {} = .error (.missing ".x") := by
  refine ⟨?_, ?_, ?_⟩ <;> cbv

end Section

end Config

end ImagePreload
