import Mathlib.Data.List.TakeWhile
import ImagePreload.CommandLine.Failure

/-!
# Trees of messages

What is wrong with a configuration is a tree: a list under each key, and in the list
messages and mappings with more such lists. It is told line by line, a line for each
message, with the keys on the way to it in front.

The account of a tree is that of a walk through it (`account_value`). The walk comes by
keys and messages in order and says of each by which keys it is reached; the account
has those keys as one text, which it makes longer on the way down. So the induction
carries the keys as a list along with the text, and the two stay in step because a text
that is not empty is gone on with by a point (`wayText_next`). This is why the first
keys have to have a text: behind an empty one there would be no point.

Nothing is left out and nothing is told twice. What ends a walk early is a key that
cannot be written, an integer of too many digits: neither what it leads to nor what
comes behind it is told (`MessageTree.messages_told`), and a configuration may have such
a key (`messages_told_unwritable`). A tree without one is told in full, and so is what a
refused configuration is refused with, for that ends in front of such a key
(`complete_told`).
-/

namespace ImagePreload.Config

/-- What a list of messages consists of: messages, and mappings with lists of them. -/
inductive Remark where
  | message (text : String)
  | inside (entries : List (Value × List Remark))

/-- Lists of messages under keys. -/
abbrev MessageTree := List (Value × List Remark)

mutual

def Remark.value : Remark → Value
  | .message text => .text text
  | .inside entries => .map (entryValues entries)

def remarkValues : List Remark → List Value
  | [] => []
  | remark :: remarks => remark.value :: remarkValues remarks

def entryValues : List (Value × List Remark) → Entries
  | [] => []
  | (key, remarks) :: rest => (key, .list (remarkValues remarks)) :: entryValues rest

end

/-- A tree of messages as a value. -/
def MessageTree.value (tree : MessageTree) : Value := .map (entryValues tree)

/-! ## Walks through a tree -/

/-- What a walk comes by, a key or a message, with the keys that lead there. -/
structure Stop where
  path : List Value
  message : Option String

namespace Stop

/-- The stop as seen from the mapping around the key. -/
def under (key : Value) (s : Stop) : Stop := { s with path := key :: s.path }

/-- Whether the way to the stop can be written. -/
def isWritable (s : Stop) : Bool := s.path.all fun key => !key.isTooLong

/-- The message at the stop, if there is one, with a path that leads to the walk in front. -/
def finding? (path : List Value) (s : Stop) : Option Finding :=
  s.message.map fun text => ⟨path ++ s.path, text⟩

end Stop

mutual

def Remark.stops : Remark → List Stop
  | .message text => [⟨[], some text⟩]
  | .inside entries => stopsUnder entries

def stopsAmong : List Remark → List Stop
  | [] => []
  | remark :: remarks => remark.stops ++ stopsAmong remarks

/-- A key comes in front of all that it leads to. -/
def stopsUnder : List (Value × List Remark) → List Stop
  | [] => []
  | (key, remarks) :: rest =>
    ⟨[key], none⟩ :: (stopsAmong remarks).map (Stop.under key) ++ stopsUnder rest

end

mutual

def Remark.count : Remark → Nat
  | .message _ => 1
  | .inside entries => countUnder entries

def countAmong : List Remark → Nat
  | [] => 0
  | remark :: remarks => remark.count + countAmong remarks

def countUnder : List (Value × List Remark) → Nat
  | [] => 0
  | (_, remarks) :: rest => countAmong remarks + countUnder rest

end

namespace MessageTree

/-- How many messages a tree holds. -/
def count (tree : MessageTree) : Nat := countUnder tree

/-- The walk through a whole tree, depth first. -/
def stops (tree : MessageTree) : List Stop := stopsUnder tree

/-- The messages of a tree in order, each with the way to it. -/
def messages (tree : MessageTree) : List Finding := tree.stops.filterMap (Stop.finding? [])

/-- The messages in front of the first key that cannot be written. -/
def messagesInFront (tree : MessageTree) : List Finding :=
  (tree.stops.takeWhile Stop.isWritable).filterMap (Stop.finding? [])

/-- Whether all keys in a tree can be written. -/
def IsWritable (tree : MessageTree) : Prop := ∀ stop ∈ tree.stops, stop.isWritable = true

end MessageTree

/-- The text of a way: its keys with points between them. -/
def wayText (path : List Value) : String := ".".intercalate (path.map Value.display)

/-- The line that tells of a finding. -/
def Finding.line (f : Finding) : String := "  " ++ wayText f.path ++ ": " ++ f.message

/-! ## The text of a way -/

section

variable {path : List Value}

theorem wayText_append (h : path ≠ []) (key : Value) :
    wayText (path ++ [key]) = wayText path ++ "." ++ key.display := by
  have hne : path.map Value.display ≠ [] := by simpa using h
  have hlast : [key].map Value.display ≠ [] := List.cons_ne_nil _ _
  unfold wayText
  rw [List.map_append, String.intercalate_append_of_ne_nil hne hlast]
  simp

theorem ne_nil_of_wayText (h : wayText path ≠ "") : path ≠ [] := by
  rintro rfl
  exact h rfl

theorem wayText_next (h : wayText path ≠ "") (key : Value) :
    wayText path ++ (if (wayText path).isEmpty then "" else ".") ++ key.display =
      wayText (path ++ [key]) := by
  have hempty : ¬ (wayText path).isEmpty = true := by simpa using h
  rw [if_neg hempty, wayText_append (ne_nil_of_wayText h)]

theorem wayText_append_ne (h : wayText path ≠ "") (key : Value) :
    wayText (path ++ [key]) ≠ "" := by
  rw [wayText_append (ne_nil_of_wayText h)]
  simp [h]

end

/-! ## Accounts of walks -/

/-- The account of a walk behind a path. -/
def accountOfStops (path : List Value) (stops : List Stop) : Account :=
  ⟨((stops.takeWhile Stop.isWritable).filterMap (Stop.finding? path)).map Finding.line,
    stops.all Stop.isWritable⟩

section

variable {path : List Value} {key : Value}

theorem Stop.isWritable_under (writable : key.isTooLong = false) (s : Stop) :
    (s.under key).isWritable = s.isWritable := by
  simp [under, isWritable, writable]

theorem Stop.finding?_under (s : Stop) :
    (s.under key).finding? path = s.finding? (path ++ [key]) := by
  simp [under, finding?]

theorem accountOfStops_writable {s : Stop} (writable : s.isWritable = true) (stops : List Stop) :
    accountOfStops path (s :: stops) =
      Account.followedBy ⟨((s.finding? path).map Finding.line).toList, true⟩
        (accountOfStops path stops) := by
  unfold accountOfStops Account.followedBy
  rw [List.takeWhile_cons_of_pos writable, List.all_cons, writable, Bool.true_and, if_pos rfl]
  cases h : s.finding? path with
  | none =>
      rw [List.filterMap_cons_none h]
      rfl
  | some f =>
      rw [List.filterMap_cons_some h]
      rfl

theorem accountOfStops_unwritable {s : Stop} (unwritable : s.isWritable = false)
    (stops : List Stop) : accountOfStops path (s :: stops) = .brokenOff := by
  unfold accountOfStops
  rw [List.takeWhile_cons_of_neg (by simp [unwritable]), List.all_cons, unwritable]
  rfl

theorem accountOfStops_message (text : String) :
    accountOfStops path [⟨[], some text⟩] = .line ("  " ++ wayText path ++ ": " ++ text) := by
  have hstop : Stop.isWritable ⟨[], some text⟩ = true := rfl
  rw [accountOfStops_writable hstop]
  simp [Stop.finding?, Finding.line, accountOfStops, Account.followedBy, Account.line]

theorem Account.followedBy_assoc (a b c : Account) :
    (a.followedBy b).followedBy c = a.followedBy (b.followedBy c) := by
  by_cases ha : a.isWhole = true
  · by_cases hb : b.isWhole = true
    · simp [followedBy, ha, hb, List.append_assoc]
    · simp [followedBy, ha, hb]
  · simp [followedBy, ha]

theorem accountOfStops_append (stops more : List Stop) :
    accountOfStops path (stops ++ more) =
      (accountOfStops path stops).followedBy (accountOfStops path more) := by
  induction stops with
  | nil => rfl
  | cons s stops ih =>
      rw [List.cons_append]
      by_cases h : s.isWritable = true
      · rw [accountOfStops_writable h, accountOfStops_writable h, ih, Account.followedBy_assoc]
      · have hs : s.isWritable = false := by simpa using h
        rw [accountOfStops_unwritable hs, accountOfStops_unwritable hs]
        rfl

/-- A walk behind a key is a walk behind a longer path. -/
theorem accountOfStops_under (writable : key.isTooLong = false) (stops : List Stop) :
    accountOfStops path (stops.map (Stop.under key)) = accountOfStops (path ++ [key]) stops := by
  induction stops with
  | nil => rfl
  | cons s stops ih =>
      have hs : (s.under key).isWritable = s.isWritable := s.isWritable_under writable
      rw [List.map_cons]
      by_cases h : s.isWritable = true
      · rw [accountOfStops_writable (hs.trans h), accountOfStops_writable h, ih,
          Stop.finding?_under]
      · have hs' : s.isWritable = false := by simpa using h
        rw [accountOfStops_unwritable (hs.trans hs'), accountOfStops_unwritable hs']

end

/-! ## The account of a tree -/

section

variable {path : List Value} {key : Value}

/-- The account of a key and of what is behind it, once the account of its list is known. -/
theorem accountOfEntries_cons {remarks : List Remark} {rest : List (Value × List Remark)}
    (next : wayText path ++ (if (wayText path).isEmpty then "" else ".") ++ key.display =
      wayText (path ++ [key]))
    (here : accountOfItems (wayText (path ++ [key])) (remarkValues remarks) =
      accountOfStops (path ++ [key]) (stopsAmong remarks))
    (behind : accountOfEntries (wayText path) (entryValues rest) =
      accountOfStops path (stopsUnder rest)) :
    accountOfEntries (wayText path) (entryValues ((key, remarks) :: rest)) =
      accountOfStops path (stopsUnder ((key, remarks) :: rest)) := by
  rw [entryValues, accountOfEntries, stopsUnder, next, account, here, behind]
  -- The walk comes by the key itself first, so both break off there or neither does.
  by_cases h : key.isTooLong = true
  · have hstop : Stop.isWritable ⟨[key], none⟩ = false := by simp [Stop.isWritable, h]
    rw [if_pos h, List.cons_append, accountOfStops_unwritable hstop]
  · have hkey : key.isTooLong = false := by simpa using h
    have hstop : Stop.isWritable ⟨[key], none⟩ = true := by simp [Stop.isWritable, hkey]
    rw [if_neg h, List.cons_append, accountOfStops_writable hstop, accountOfStops_append,
      accountOfStops_under hkey]
    rfl

end

mutual

theorem accountOfItems_value {path : List Value} (named : wayText path ≠ "")
    (remarks : List Remark) :
    accountOfItems (wayText path) (remarkValues remarks) =
      accountOfStops path (stopsAmong remarks) := by
  cases remarks with
  | nil => rfl
  | cons remark remarks =>
      have hrest := accountOfItems_value named remarks
      rw [remarkValues, stopsAmong, accountOfStops_append]
      cases remark with
      | message text =>
          have htext : (Value.text text).isTooLong = false := rfl
          rw [Remark.value, Remark.stops, accountOfItems, hrest, htext, accountOfStops_message]
          · rfl
          · exact nofun
      | inside entries =>
          rw [Remark.value, accountOfItems, hrest, accountOfEntries_value named entries,
            Remark.stops]

theorem accountOfEntries_value {path : List Value} (named : wayText path ≠ "")
    (entries : List (Value × List Remark)) :
    accountOfEntries (wayText path) (entryValues entries) =
      accountOfStops path (stopsUnder entries) := by
  cases entries with
  | nil => rfl
  | cons entry rest =>
      obtain ⟨key, remarks⟩ := entry
      exact accountOfEntries_cons (wayText_next named key)
        (accountOfItems_value (wayText_append_ne named key) remarks)
        (accountOfEntries_value named rest)

end

/-- The account of a whole tree. -/
theorem account_value {tree : MessageTree} (named : ∀ entry ∈ tree, entry.1.display ≠ "") :
    account "" tree.value = accountOfStops [] tree.stops := by
  show accountOfEntries (wayText []) (entryValues tree) = accountOfStops [] (stopsUnder tree)
  induction tree with
  | nil => rfl
  | cons entry rest ih =>
      obtain ⟨hkey, hrest⟩ := List.forall_mem_cons.1 named
      obtain ⟨key, remarks⟩ := entry
      -- No key has been gone by yet, and the first one comes without a point.
      have hfirst : wayText ([] ++ [key]) = key.display := by simp [wayText]
      have hnext : wayText [] ++ (if (wayText []).isEmpty then "" else ".") ++ key.display =
          wayText ([] ++ [key]) := by
        rw [hfirst]
        simp [wayText]
      exact accountOfEntries_cons hnext (accountOfItems_value (hfirst ▸ hkey) remarks) (ih hrest)

/-! ## What is told -/

mutual

theorem countP_stopsAmong (remarks : List Remark) :
    (stopsAmong remarks).countP (fun s => s.message.isSome) = countAmong remarks := by
  cases remarks with
  | nil => rfl
  | cons remark remarks =>
      rw [stopsAmong, countAmong, List.countP_append, countP_stopsAmong remarks]
      cases remark with
      | message text => rfl
      | inside entries => rw [Remark.stops, Remark.count, countP_stopsUnder entries]

theorem countP_stopsUnder (entries : List (Value × List Remark)) :
    (stopsUnder entries).countP (fun s => s.message.isSome) = countUnder entries := by
  cases entries with
  | nil => rfl
  | cons entry rest =>
      obtain ⟨key, remarks⟩ := entry
      have hkey : (fun s => s.message.isSome) ∘ Stop.under key = fun s => s.message.isSome := rfl
      rw [stopsUnder, countUnder, List.cons_append, List.countP_cons_of_neg Bool.false_ne_true,
        List.countP_append, List.countP_map, hkey, countP_stopsAmong remarks,
        countP_stopsUnder rest]

end

namespace MessageTree

variable {tree : MessageTree}

theorem messages_length : tree.messages.length = tree.count := by
  rw [messages, List.length_filterMap_eq_countP, count, ← countP_stopsUnder, stops]
  simp [Stop.finding?]

theorem errorLines_value (named : ∀ entry ∈ tree, entry.1.display ≠ "") :
    errorLines "" tree.value = tree.messagesInFront.map Finding.line := by
  rw [errorLines, account_value named]
  rfl

theorem messagesInFront_of_writable (writable : tree.IsWritable) :
    tree.messagesInFront = tree.messages := by
  rw [messagesInFront, List.takeWhile_eq_self_iff.2 writable, messages]

theorem errorLines_of_writable (named : ∀ entry ∈ tree, entry.1.display ≠ "")
    (writable : tree.IsWritable) : errorLines "" tree.value = tree.messages.map Finding.line := by
  rw [errorLines_value named, messagesInFront_of_writable writable]

/-- What is told of a tree are its messages in order, each in a line of its own with the
way to it, up to a key that cannot be written. If there is none, all of them are told,
and each makes one record of an error. -/
theorem messages_told (tree : MessageTree) (named : ∀ entry ∈ tree, entry.1.display ≠ "") :
    errorLines "" tree.value = tree.messagesInFront.map Finding.line ∧
    ((account "" tree.value).isWhole = true ↔ tree.IsWritable) ∧
    (tree.IsWritable →
      errorLines "" tree.value = tree.messages.map Finding.line ∧
      (errorLines "" tree.value).length = tree.count ∧
      (CommandLine.CommandFailure.config (.invalid tree.value)).records =
        ⟨.error, "Configuration validation errors:", false⟩ ::
          tree.messages.map (fun f => ⟨.error, f.line, false⟩) ++
          CommandLine.failureRecords (.own .configuration) "Configuration is invalid.") := by
  refine ⟨errorLines_value named, ?_, fun writable => ?_⟩
  · rw [account_value named]
    exact List.all_eq_true
  · have htold := errorLines_of_writable named writable
    refine ⟨htold, ?_, ?_⟩
    · rw [htold, List.length_map, messages_length]
    · show ("Configuration validation errors:" :: errorLines "" tree.value).map _ ++ _ = _
      rw [htold, List.map_cons, List.map_map]
      rfl

end MessageTree

/-- A configuration with three faults. -/
def faultyTree : MessageTree :=
  [(rootKey, [.inside
    [(.text "jobs", [.inside
      [(.int 0, [.inside [(.text "", [.message "unknown field"])]]),
        (.int 1, [.message "null value not allowed"])]]),
      (.text "logFile", [.message "must be of string type"])]])]

theorem messages_told_faulty :
    (∀ entry ∈ faultyTree, entry.1.display ≠ "") ∧ faultyTree.IsWritable ∧
      errorLines "" faultyTree.value =
        ["  configuration.jobs.0.: unknown field",
          "  configuration.jobs.1: null value not allowed",
          "  configuration.logFile: must be of string type"] ∧
      (errorLines "" faultyTree.value).length = 3 := by
  have named : ∀ entry ∈ faultyTree, entry.1.display ≠ "" := by decide +kernel
  have writable : faultyTree.IsWritable := List.all_eq_true.1 (by decide +kernel)
  obtain ⟨-, -, htold⟩ := faultyTree.messages_told named
  obtain ⟨hlines, hlength, -⟩ := htold writable
  exact ⟨named, writable, hlines.trans (by decide +kernel), hlength⟩

/-- An integer with too many digits to be written. -/
def unwritableKey : Value := .int (.ofNat (Nat.pow 2 14288))

/-- A configuration with a field of that name. -/
def unwritableEntries : Entries :=
  [(.text versionKey, .text "1"), (.text "jobs", .list [.map [(.text "name", .text "a")]]),
    (unwritableKey, .int 1)]

/-- What is wrong with it. -/
def unwritableTree : MessageTree :=
  [(rootKey, [.inside [(unwritableKey, [.message "unknown field"])]])]

/-- There is a message, and no line for it. -/
theorem messages_told_unwritable :
    (∀ entry ∈ unwritableTree, entry.1.display ≠ "") ∧ unwritableTree.count = 1 ∧
      errorLines "" unwritableTree.value = [] ∧
      (errorTree (schema.validate rootKey (.map unwritableEntries)).2).same
        unwritableTree.value = true ∧
      ∃ e, complete unwritableEntries = .error e ∧ e.kind = .value ∧
        e.report = ["Configuration validation errors:"] := by
  have hfails : (match complete unwritableEntries with
      | .ok _ => false
      | .error e =>
        decide (e.kind = .value ∧ e.report = ["Configuration validation errors:"])) = true := by
    decide +kernel
  refine ⟨by decide +kernel, rfl, by decide +kernel, by decide +kernel, ?_⟩
  cases hentries : complete unwritableEntries with
  | ok options =>
      rw [hentries] at hfails
      cases hfails
  | error e =>
      rw [hentries] at hfails
      exact ⟨e, rfl, of_decide_eq_true hfails⟩

/-! ## The trees of a validation -/

theorem remarkValues_append (remarks more : List Remark) :
    remarkValues (remarks ++ more) = remarkValues remarks ++ remarkValues more := by
  induction remarks with
  | nil => rfl
  | cons remark remarks ih =>
      rw [List.cons_append, remarkValues, remarkValues, ih, List.cons_append]

theorem stopsAmong_append (remarks more : List Remark) :
    stopsAmong (remarks ++ more) = stopsAmong remarks ++ stopsAmong more := by
  induction remarks with
  | nil => rfl
  | cons remark remarks ih =>
      rw [List.cons_append, stopsAmong, stopsAmong, ih, List.append_assoc]

/-- A list of remarks in which all keys can be written, as values. -/
def AreRemarks (vs : List Value) : Prop :=
  ∃ remarks, remarkValues remarks = vs ∧ ∀ stop ∈ stopsAmong remarks, stop.isWritable = true

theorem AreRemarks.append {vs ws : List Value} (hvs : AreRemarks vs) (hws : AreRemarks ws) :
    AreRemarks (vs ++ ws) := by
  obtain ⟨remarks, rfl, hremarks⟩ := hvs
  obtain ⟨more, rfl, hmore⟩ := hws
  refine ⟨remarks ++ more, remarkValues_append _ _, ?_⟩
  rw [stopsAmong_append]
  intro stop hstop
  exact (List.mem_append.1 hstop).elim (hremarks stop) (hmore stop)

theorem areRemarks_of_texts {vs : List Value} (h : ∀ v ∈ vs, ∃ text, v = .text text) :
    AreRemarks vs := by
  induction vs with
  | nil => exact ⟨[], rfl, nofun⟩
  | cons v vs ih =>
      obtain ⟨⟨text, rfl⟩, hvs⟩ := List.forall_mem_cons.1 h
      have hfirst : AreRemarks [.text text] := by
        refine ⟨[.message text], rfl, ?_⟩
        simp [stopsAmong, Remark.stops, Stop.isWritable]
      exact hfirst.append (ih hvs)

theorem areRemarks_inside {entries : Entries}
    (h : ∃ tree : MessageTree, entryValues tree = entries ∧ tree.IsWritable) :
    AreRemarks [.map entries] := by
  obtain ⟨tree, rfl, hall⟩ := h
  refine ⟨[.inside tree], rfl, ?_⟩
  rw [stopsAmong, stopsAmong, List.append_nil]
  exact hall

theorem mem_distinctHeads {found : List Finding} {key : Value} (h : key ∈ distinctHeads found) :
    ∃ f ∈ found, f.path.head? = some key := by
  induction found with
  | nil => cases h
  | cons f found ih =>
      have behind (h : key ∈ distinctHeads found) :
          ∃ g ∈ f :: found, g.path.head? = some key := by
        obtain ⟨g, hg, hkey⟩ := ih h
        exact ⟨g, List.mem_cons_of_mem _ hg, hkey⟩
      rw [distinctHeads] at h
      split at h
      · exact behind h
      · next k keys hpath =>
          rcases List.mem_cons.1 h with rfl | h
          · exact ⟨f, List.mem_cons_self, by rw [hpath]; rfl⟩
          · exact behind (List.mem_filter.1 h).1

theorem exists_tree_of_items {keys : List Value} {items : Value → List Value}
    (h : ∀ key ∈ keys, key.isTooLong = false ∧ AreRemarks (items key)) :
    ∃ tree : MessageTree, entryValues tree = keys.map (fun key => (key, .list (items key))) ∧
      tree.IsWritable ∧ ∀ entry ∈ tree, entry.1 ∈ keys := by
  induction keys with
  | nil => exact ⟨[], rfl, nofun, nofun⟩
  | cons key keys ih =>
      obtain ⟨⟨hkey, remarks, hremarks, hwritable⟩, hkeys⟩ := List.forall_mem_cons.1 h
      obtain ⟨tree, htree, hall, hmem⟩ := ih hkeys
      refine ⟨(key, remarks) :: tree, ?_, ?_, ?_⟩
      · rw [entryValues, htree, hremarks, List.map_cons]
      · have hfirst : Stop.isWritable ⟨[key], none⟩ = true := by simp [Stop.isWritable, hkey]
        intro stop hstop
        rcases List.mem_append.1 hstop with hstop | hstop
        · rcases List.mem_cons.1 hstop with rfl | hstop
          · exact hfirst
          · obtain ⟨inner, hinner, rfl⟩ := List.mem_map.1 hstop
            rw [Stop.isWritable_under hkey]
            exact hwritable inner hinner
        · exact hall stop hstop
      · refine List.forall_mem_cons.2 ⟨List.mem_cons_self, ?_⟩
        intro entry hentry
        exact List.mem_cons_of_mem _ (hmem entry hentry)

/-- What was found makes a tree with the same keys in front. -/
theorem treeOf_eq_values (depth : Nat) {found : List Finding}
    (writable : ∀ f ∈ found, f.isWritable = true) :
    ∃ tree : MessageTree, entryValues tree = treeOf depth found ∧ tree.IsWritable ∧
      ∀ entry ∈ tree, ∃ f ∈ found, f.path.head? = some entry.1 := by
  -- The list under a key holds the messages of findings that end there, and the mapping that
  -- the rest of the other findings makes one level further down.
  induction depth generalizing found with
  | zero => exact ⟨[], rfl, nofun, nofun⟩
  | succ depth ih =>
      have heads {key : Value} (hkey : key ∈ distinctHeads found) : key.isTooLong = false := by
        obtain ⟨f, hf, hpath⟩ := mem_distinctHeads hkey
        obtain ⟨rest, hrest⟩ := List.head?_eq_some_iff.1 hpath
        have hwritable := writable f hf
        rw [Finding.isWritable, hrest] at hwritable
        simpa using (Bool.and_eq_true_iff.1 hwritable).1
      have hlists : ∃ tree : MessageTree, entryValues tree = treeOf (depth + 1) found ∧
          tree.IsWritable ∧ ∀ entry ∈ tree, entry.1 ∈ distinctHeads found := by
        rw [treeOf]
        apply exists_tree_of_items
        intro key hkey
        refine ⟨heads hkey, AreRemarks.append (areRemarks_of_texts ?_) ?_⟩
        · intro v hv
          obtain ⟨f, -, hf⟩ := List.mem_filterMap.1 hv
          split at hf
          · split at hf
            · cases hf
              exact ⟨f.message, rfl⟩
            · cases hf
          · cases hf
        · split
          · exact ⟨[], rfl, nofun⟩
          · refine areRemarks_inside ((ih ?_).imp fun _ h => ⟨h.1, h.2.1⟩)
            intro g hg
            obtain ⟨f, hmem, hf⟩ := List.mem_filterMap.1 hg
            have hwritable := writable f hmem
            rw [Finding.isWritable] at hwritable
            split at hf
            · next hpath =>
                split at hf
                · cases hf
                  rw [hpath] at hwritable
                  exact (Bool.and_eq_true_iff.1 hwritable).2
                · cases hf
            · cases hf
      obtain ⟨tree, htree, hall, hmem⟩ := hlists
      exact ⟨tree, htree, hall, fun entry hentry => mem_distinctHeads (hmem entry hentry)⟩

theorem head?_of_validate {rule : Rule} {key v : Value} {f : Finding}
    (h : f ∈ (rule.validate key v).2) : f.path.head? = some key := by
  obtain ⟨g, -, rfl⟩ := List.mem_map.1 h
  rfl

theorem exists_tree_of_found {found : List Finding}
    (rooted : ∀ f ∈ found, f.path.head? = some rootKey)
    (writable : ∀ f ∈ found, f.isWritable = true) :
    ∃ tree : MessageTree, tree.value = errorTree found ∧
      (∀ entry ∈ tree, entry.1.display ≠ "") ∧
      errorLines "" (errorTree found) = tree.messages.map Finding.line := by
  obtain ⟨tree, htree, hall, hheads⟩ := treeOf_eq_values _ writable
  have hvalue : tree.value = errorTree found := congrArg Value.map htree
  have named : ∀ entry ∈ tree, entry.1.display ≠ "" := by
    intro entry hentry
    obtain ⟨f, hf, hkey⟩ := hheads entry hentry
    have hroot : rootKey = entry.1 := Option.some.inj ((rooted f hf).symm.trans hkey)
    rw [← hroot]
    decide
  refine ⟨tree, hvalue, named, ?_⟩
  rw [← hvalue, MessageTree.errorLines_of_writable named hall]

/-- What breaks the rules in a mapping makes a tree of messages that is told in full. If
some of it is under a key that cannot be written, the tree is that of what was found
in front of it. -/
theorem complete_told {entries : Entries} {e : ConfigFailure} (h : complete entries = .error e) :
    e = .confused ∨ ∃ tree : MessageTree, (∀ entry ∈ tree, entry.1.display ≠ "") ∧
      (e = .invalid tree.value ∨ e = .longKey tree.value) ∧
      e.report = "Configuration validation errors:" :: tree.messages.map Finding.line := by
  unfold complete at h
  split at h
  · cases h
    exact Or.inl rfl
  · split at h
    · cases h
    · next options found _ hvalidated =>
        have rooted : ∀ f ∈ found, f.path.head? = some rootKey := by
          intro f hf
          exact head?_of_validate (by rwa [hvalidated])
        right
        split at h
        · next hwritable =>
            cases h
            obtain ⟨tree, hvalue, named, htold⟩ :=
              exists_tree_of_found rooted (List.all_eq_true.1 hwritable)
            refine ⟨tree, named, Or.inl (congrArg _ hvalue.symm), ?_⟩
            rw [ConfigFailure.report, htold]
        · cases h
          have hfront : ∀ f ∈ found.takeWhile Finding.isWritable, f ∈ found :=
            fun f hf => (List.takeWhile_prefix _).subset hf
          obtain ⟨tree, hvalue, named, htold⟩ :=
            exists_tree_of_found (fun f hf => rooted f (hfront f hf))
              (fun f hf => List.mem_takeWhile_imp hf)
          refine ⟨tree, named, Or.inr (congrArg _ hvalue.symm), ?_⟩
          rw [ConfigFailure.report, htold]

end ImagePreload.Config
