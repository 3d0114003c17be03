import ImagePreload.Proofs.Acceptance
import ImagePreload.Yaml.Document

/-!
# Where a document has tuples

A document is built of mappings, sequences and scalars, and a sequence becomes a list.
Tuples come about in two places only: a sequence that is a key becomes one, and so does
each of the pairs of a list of pairs. So what stands under a key of a mapping is never a
tuple (`Yaml.load_under_key`), however the mapping was written: as it is, with others
merged into it, or as a sequence of its entries.
-/

namespace ImagePreload

def Value.isTuple : Value → Bool
  | .tuple _ => true
  | _ => false

/-- Entries with no tuple under a key. -/
def Entries.NoTuples (entries : Entries) : Prop := ∀ e ∈ entries, e.2.isTuple = false

/-- No tuple, and no mapping with a tuple under a key. -/
structure Value.Plain (v : Value) : Prop where
  noTuple : v.isTuple = false
  entries : ∀ entries : Entries, v = .map entries → entries.NoTuples

namespace Entries

theorem exists_mem_of_get? {key v : Value} {entries : Entries}
    (h : entries.get? key = some v) : ∃ e ∈ entries, e.2 = v := by
  induction entries with
  | nil => cases h
  | cons e entries ih =>
      rw [get?] at h
      split at h
      · cases h
        exact ⟨e, List.mem_cons_self, rfl⟩
      · obtain ⟨e', hmem, hv⟩ := ih h
        exact ⟨e', List.mem_cons_of_mem _ hmem, hv⟩

theorem NoTuples.append {xs ys : Entries} (hx : NoTuples xs) (hy : NoTuples ys) :
    NoTuples (xs ++ ys) :=
  fun e hmem => (List.mem_append.1 hmem).elim (hx e) (hy e)

theorem NoTuples.insert {key v : Value} {entries : Entries} (hv : v.isTuple = false)
    (h : entries.NoTuples) : (entries.insert key v).NoTuples := by
  induction entries with
  | nil => exact List.forall_mem_singleton.2 hv
  | cons e entries ih =>
      obtain ⟨he, hentries⟩ := List.forall_mem_cons.1 h
      rw [Entries.insert]
      split
      · exact List.forall_mem_cons.2 ⟨hv, hentries⟩
      · exact List.forall_mem_cons.2 ⟨he, ih hentries⟩

theorem NoTuples.ofPairs {pairs : List (Value × Value)} (h : NoTuples pairs) :
    (Entries.ofPairs pairs).NoTuples := by
  have hfold (done : Entries) (hdone : done.NoTuples) :
      (pairs.foldl (fun entries pair => Entries.insert pair.1 pair.2 entries) done).NoTuples := by
    induction pairs generalizing done with
    | nil => exact hdone
    | cons pair pairs ih =>
        obtain ⟨hpair, hpairs⟩ := List.forall_mem_cons.1 h
        exact ih hpairs _ (hdone.insert hpair)
  exact hfold [] fun _ hmem => absurd hmem List.not_mem_nil

end Entries

namespace Yaml

open Entries

/-- Whatever is loaded is plain. -/
def LoadsPlain (x : Load Value) : Prop := ∀ v, x = .ok v → v.Plain

theorem loadsPlain_ok {v : Value} (h : v.Plain) : LoadsPlain (.ok v) := by
  rintro _ ⟨⟩
  exact h

theorem loadsPlain_error (e : LoadError) : LoadsPlain (.error e) := nofun

theorem loadsPlain_bind {α : Type} {x : Load α} {f : α → Load Value}
    (h : ∀ a, LoadsPlain (f a)) : LoadsPlain (x >>= f) := by
  intro v hv
  obtain ⟨a, -, ha⟩ := bind_eq_ok.1 hv
  exact h a v ha

/-! ## Scalars -/

theorem intValue_plain (old : Bool) (text : String) : LoadsPlain (intValue old text) := by
  unfold intValue
  dsimp only
  split
  · exact loadsPlain_error _
  · repeat' first
      | refine loadsPlain_bind fun _ => ?_
      | exact loadsPlain_ok ⟨rfl, nofun⟩
      | split

theorem floatValue_plain (old : Bool) (text : String) : LoadsPlain (floatValue old text) := by
  unfold floatValue
  dsimp only
  split
  · exact loadsPlain_error _
  · repeat' first
      | split
      | refine loadsPlain_bind fun _ => ?_
      | exact loadsPlain_ok ⟨rfl, nofun⟩

theorem truthValue_plain (text : String) : LoadsPlain (truthValue text) := by
  unfold truthValue
  dsimp only
  split
  · exact loadsPlain_ok ⟨rfl, nofun⟩
  · split
    · exact loadsPlain_ok ⟨rfl, nofun⟩
    · exact loadsPlain_error _

theorem timestampValue_plain (text : String) : LoadsPlain (timestampValue text) := by
  unfold timestampValue
  repeat' first
    | refine loadsPlain_bind fun _ => ?_
    | exact loadsPlain_ok ⟨rfl, nofun⟩
    | exact loadsPlain_error _
    | split

theorem binaryValue_plain (text : String) : LoadsPlain (binaryValue text) := by
  unfold binaryValue
  split
  · exact loadsPlain_error _
  · split
    · exact loadsPlain_ok ⟨rfl, nofun⟩
    · exact loadsPlain_error _

/-- The value of a scalar has nothing inside. -/
theorem scalarValue_plain (old : Bool) (tag text : String) :
    LoadsPlain (scalarValue old tag text) := by
  unfold scalarValue
  split
  · exact loadsPlain_ok ⟨rfl, nofun⟩
  split
  · exact loadsPlain_ok ⟨rfl, nofun⟩
  split
  · exact intValue_plain old text
  split
  · exact floatValue_plain old text
  split
  · exact truthValue_plain text
  split
  · exact timestampValue_plain text
  split
  · exact binaryValue_plain text
  · exact loadsPlain_error _

/-! ## Mappings and sequences -/

/-- Entries that are no tuples, if there are any. -/
def Pairs.Clean (pairs : Load Pairs) : Prop := ∀ p, pairs = .ok p → NoTuples p.entries

/-- Whatever a node is asked for, there is no tuple under a key. -/
structure Built.Clean (b : Built) : Prop where
  value : LoadsPlain b.value
  pairs : ∀ pairs, b.pairs = some pairs → Pairs.Clean pairs
  items : ∀ items, b.items = some items → ∀ pairs, some pairs ∈ items → Pairs.Clean pairs

theorem noTuples_of_mapM {α : Type} {f : α → Load (List (Value × Value))} {xs : List α}
    {parts : List (List (Value × Value))}
    (hf : ∀ x ∈ xs, ∀ part, f x = .ok part → NoTuples part) (h : xs.mapM f = .ok parts) :
    ∀ part ∈ parts, NoTuples part := by
  induction xs generalizing parts with
  | nil =>
      cases h
      exact fun _ hmem => absurd hmem List.not_mem_nil
  | cons x xs ih =>
      obtain ⟨hx, hxs⟩ := List.forall_mem_cons.1 hf
      rw [List.mapM_cons] at h
      obtain ⟨part, hpart, h⟩ := bind_eq_ok.1 h
      obtain ⟨rest, hrest, h⟩ := bind_eq_ok.1 h
      cases h
      exact List.forall_mem_cons.2 ⟨hx part hpart, ih hxs hrest⟩

theorem Pairs.Clean.noTuples {pairs : Load Pairs} (clean : Pairs.Clean pairs)
    {entries : List (Value × Value)} (h : pairs.map (·.entries) = .ok entries) :
    NoTuples entries := by
  cases pairs with
  | error e => cases h
  | ok p =>
      cases h
      exact clean p rfl

theorem mergedEntries_noTuples {b : Built} (clean : b.Clean) {entries : List (Value × Value)}
    (h : mergedEntries b = .ok entries) : NoTuples entries := by
  unfold mergedEntries at h
  split at h
  · next pairs _ hpairs => exact (clean.pairs _ hpairs).noTuples h
  · next items _ hitems =>
      obtain ⟨parts, hparts, h⟩ := bind_eq_ok.1 h
      cases h
      have hall : ∀ part ∈ parts, NoTuples part := by
        refine noTuples_of_mapM (fun item hmem part hpart => ?_) hparts
        split at hpart
        · exact (clean.items _ hitems _ hmem).noTuples hpart
        · cases hpart
      intro e he
      obtain ⟨part, hpart, he⟩ := List.mem_flatten.1 he
      exact hall part (List.mem_reverse.1 hpart) e he
  · cases h

theorem gatherPairs_clean {merged own : List (Value × Value)} {nodes : List (Built × Built)}
    (hmerged : NoTuples merged) (hown : NoTuples own) (hnodes : ∀ node ∈ nodes, node.2.Clean) :
    Pairs.Clean (gatherPairs merged own nodes) := by
  intro p h
  induction nodes generalizing merged own with
  | nil =>
      cases h
      exact hmerged.append hown
  | cons node nodes ih =>
      obtain ⟨hnode, hrest⟩ := List.forall_mem_cons.1 hnodes
      obtain ⟨k, v⟩ := node
      rw [gatherPairs] at h
      split at h
      · split at h
        · cases h
        · obtain ⟨entries, hentries, h⟩ := bind_eq_ok.1 h
          exact ih (mergedEntries_noTuples hnode hentries) hown hrest h
      · have under {key : Value} (h : (v.value >>= fun value =>
            gatherPairs merged (own ++ [(key, value)]) nodes) = .ok p) : NoTuples p.entries := by
          obtain ⟨value, hvalue, h⟩ := bind_eq_ok.1 h
          refine ih hmerged (hown.append ?_) hrest h
          exact List.forall_mem_singleton.2 (hnode.value value hvalue).noTuple
        dsimp only at h
        split at h
        · exact under h
        · obtain ⟨key, -, h⟩ := bind_eq_ok.1 h
          exact under h

theorem toEntries_noTuples {p : Pairs} {entries : Entries} (hp : NoTuples p.entries)
    (h : p.toEntries = .ok entries) : entries.NoTuples := by
  have hfold {done : Entries} (hdone : done.NoTuples) {pairs : List (Value × Value)}
      (hpairs : NoTuples pairs)
      (h : pairs.foldlM (fun done pair =>
        if Entries.contains done pair.1 then flawed .duplicateKey
        else return done ++ [(pair.1, pair.2)]) done = .ok entries) : entries.NoTuples := by
    induction pairs generalizing done with
    | nil =>
        cases h
        exact hdone
    | cons pair pairs ih =>
        obtain ⟨hpair, hpairs⟩ := List.forall_mem_cons.1 hpairs
        obtain ⟨next, hnext, h⟩ := bind_eq_ok.1 h
        dsimp only at hnext
        split at hnext
        · cases hnext
        · cases hnext
          exact ih (hdone.append (List.forall_mem_singleton.2 hpair)) hpairs h
  unfold Pairs.toEntries at h
  split at h
  · cases h
    exact hp.ofPairs
  · exact hfold (fun _ hmem => absurd hmem List.not_mem_nil) hp h

theorem singlePairs_noTuples {items : List (Option (Load Pairs))}
    (clean : ∀ pairs, some pairs ∈ items → Pairs.Clean pairs) {entries : List (Value × Value)}
    (h : singlePairs items = .ok entries) : NoTuples entries := by
  unfold singlePairs at h
  induction items generalizing entries with
  | nil =>
      cases h
      exact fun _ hmem => absurd hmem List.not_mem_nil
  | cons item items ih =>
      rw [List.mapM_cons] at h
      obtain ⟨pair, hpair, h⟩ := bind_eq_ok.1 h
      obtain ⟨rest, hrest, h⟩ := bind_eq_ok.1 h
      cases h
      have hitems := ih (fun pairs hmem => clean pairs (List.mem_cons_of_mem _ hmem)) hrest
      refine List.forall_mem_cons.2 ⟨?_, hitems⟩
      split at hpair
      · next pairs =>
          obtain ⟨p, hp, hpair⟩ := bind_eq_ok.1 hpair
          split at hpair
          · next pair' hsingle =>
              cases hpair
              refine clean pairs List.mem_cons_self p hp pair ?_
              rw [hsingle]
              exact List.mem_cons_self
          · cases hpair
      · cases hpair

theorem mappingValue_plain {tag : String} {pairs : Load Pairs} (clean : Pairs.Clean pairs)
    (text : Option String) : LoadsPlain (mappingValue tag pairs text) := by
  unfold mappingValue
  split
  · intro v h
    obtain ⟨p, hp, h⟩ := bind_eq_ok.1 h
    obtain ⟨entries, hentries, h⟩ := bind_eq_ok.1 h
    cases h
    refine ⟨rfl, ?_⟩
    rintro _ ⟨⟩
    exact toEntries_noTuples (clean p hp) hentries
  split
  · refine loadsPlain_bind fun p => loadsPlain_bind fun entries => ?_
    exact loadsPlain_ok ⟨rfl, nofun⟩
  split
  · split
    · exact loadsPlain_ok ⟨rfl, nofun⟩
    · exact loadsPlain_error _
  · exact loadsPlain_error _

theorem sequenceValue_plain {tag : String} {pairs : List (Option (Load Pairs))}
    (clean : ∀ p, some p ∈ pairs → Pairs.Clean p) (items : Load (List Value)) :
    LoadsPlain (sequenceValue tag items pairs) := by
  unfold sequenceValue
  split
  · exact loadsPlain_bind fun vs => loadsPlain_ok ⟨rfl, nofun⟩
  split
  · intro v h
    obtain ⟨entries, hentries, h⟩ := bind_eq_ok.1 h
    cases h
    refine ⟨rfl, ?_⟩
    rintro _ ⟨⟩
    exact (singlePairs_noTuples clean hentries).ofPairs
  split
  · exact loadsPlain_bind fun entries => loadsPlain_ok ⟨rfl, nofun⟩
  · exact loadsPlain_error _

mutual

theorem build_clean (old : Bool) (node : Node) : (build old node).Clean := by
  cases node with
  | scalar tag text =>
      rw [build]
      exact ⟨scalarValue_plain old tag text, nofun, nofun⟩
  | sequence tag items =>
      have hitems : ∀ p, some p ∈ (buildItems old items).map (·.pairs) → Pairs.Clean p := by
        intro p hp
        obtain ⟨b, hb, hpairs⟩ := List.mem_map.1 hp
        exact (buildItems_clean old items b hb).pairs p hpairs
      rw [build]
      refine ⟨sequenceValue_plain hitems _, nofun, ?_⟩
      rintro _ ⟨⟩
      exact hitems
  | mapping tag entries =>
      have hpairs : Pairs.Clean (gatherPairs [] [] (buildEntries old entries)) :=
        gatherPairs_clean (fun _ h => absurd h List.not_mem_nil)
          (fun _ h => absurd h List.not_mem_nil) (buildEntries_clean old entries)
      rw [build]
      refine ⟨mappingValue_plain hpairs _, ?_, nofun⟩
      rintro _ ⟨⟩
      exact hpairs

theorem buildItems_clean (old : Bool) (nodes : List Node) :
    ∀ b ∈ buildItems old nodes, b.Clean := by
  cases nodes with
  | nil =>
      rw [buildItems]
      exact fun _ h => absurd h List.not_mem_nil
  | cons node nodes =>
      rw [buildItems]
      exact List.forall_mem_cons.2 ⟨build_clean old node, buildItems_clean old nodes⟩

theorem buildEntries_clean (old : Bool) (entries : List (Node × Node)) :
    ∀ b ∈ buildEntries old entries, b.2.Clean := by
  cases entries with
  | nil =>
      rw [buildEntries]
      exact fun _ h => absurd h List.not_mem_nil
  | cons entry entries =>
      obtain ⟨k, v⟩ := entry
      rw [buildEntries]
      exact List.forall_mem_cons.2 ⟨build_clean old v, buildEntries_clean old entries⟩

end

/-- What stands under a key of a document is no tuple. -/
theorem load_under_key {text : String} {entries : Entries} {key v : Value}
    (h : load text = .ok (.map entries)) (found : entries.get? key = some v) :
    v.isTuple = false := by
  obtain ⟨⟨node, old⟩, -, h⟩ := bind_eq_ok.1 h
  obtain ⟨e, hmem, rfl⟩ := exists_mem_of_get? found
  cases node with
  | none => cases h
  | some node => exact ((build_clean old node).value _ h).entries entries rfl e hmem

end Yaml

end ImagePreload
