import ImagePreload.Proofs.PathTemplates
import Mathlib.Data.List.Forall2

/-!
# Values inside a template

A template sees its variables as data, and lists and mappings among them live in cells.
Which datum stands for which value depends on the cells (`Represents`), but on nothing
that templates of paths ever change: they add cells and leave those alone that were
there (`Kept`). Whatever they ask of a datum comes to the same as asking the value: what
it holds under a name (`getAttribute_represents`), whether it counts as true, what it
yields, and what is written for it.

The cell of a list comes behind the cells of its items. So the cells on the way into a
value have smaller and smaller numbers, and no container is ever found inside itself
(`quotedIn_represents`).
-/

namespace ImagePreload.Template

open Eval

/-! ## Cells -/

/-- All cells are still there as they were. -/
def Kept (before after : Array Cell) : Prop :=
  ∀ (i : Nat) (cell : Cell), before[i]? = some cell → after[i]? = some cell

namespace Kept

variable {before cells after : Array Cell}

theorem refl (cells : Array Cell) : Kept cells cells := fun _ _ h => h

theorem trans (h : Kept before cells) (h' : Kept cells after) : Kept before after :=
  fun i cell hcell => h' i cell (h i cell hcell)

theorem size_le (h : Kept before after) : before.size ≤ after.size := by
  by_contra hlt
  have hfound : before[after.size]? = some before[after.size] :=
    Array.getElem?_eq_getElem (by omega)
  have hnone : after[after.size]? = none := Array.getElem?_eq_none (Nat.le_refl _)
  cases (h _ _ hfound).symm.trans hnone

theorem push (cells : Array Cell) (cell : Cell) : Kept cells (cells.push cell) := by
  intro i c hc
  have hi : i < cells.size := (Array.getElem?_eq_some_iff.1 hc).1
  rw [Array.getElem?_push_lt hi]
  exact (Array.getElem?_eq_getElem hi).symm.trans hc

theorem set {ref : Nat} (h : Kept before cells) (new : before.size ≤ ref) (cell : Cell) :
    Kept before (cells.setIfInBounds ref cell) := by
  intro i c hc
  have hi : i < before.size := (Array.getElem?_eq_some_iff.1 hc).1
  rw [Array.getElem?_setIfInBounds_ne (by omega)]
  exact h i c hc

end Kept

/-- A datum that stands for a value, with all its cells below a bound. -/
inductive Represents (cells : Array Cell) : Nat → Datum → Value → Prop
  | null {bound : Nat} : Represents cells bound .null .null
  | bool {bound : Nat} (b : Bool) : Represents cells bound (.bool b) (.bool b)
  | int {bound : Nat} (n : Int) : Represents cells bound (.int n) (.int n)
  | float {bound : Nat} (x : Float) : Represents cells bound (.float x) (.float x)
  | text {bound : Nat} (s : String) : Represents cells bound (.text s false) (.text s)
  | list {bound ref : Nat} {ds : List Datum} {vs : List Value} (below : ref < bound)
      (found : cells[ref]? = some (.list ds)) (length : ds.length = vs.length)
      (each : ∀ p ∈ ds.zip vs, Represents cells ref p.1 p.2) :
      Represents cells bound (.list ref) (.list vs)
  | map {bound ref : Nat} {ds : List (Datum × Datum)} {entries : Entries} (below : ref < bound)
      (found : cells[ref]? = some (.map ds)) (length : ds.length = entries.length)
      (keys : ∀ p ∈ ds.zip entries, Represents cells ref p.1.1 p.2.1)
      (values : ∀ p ∈ ds.zip entries, Represents cells ref p.1.2 p.2.2) :
      Represents cells bound (.map ref) (.map entries)

namespace Represents

variable {cells after : Array Cell} {bound : Nat} {d : Datum} {v : Value}

/-- Only the cells of lists and mappings matter. -/
theorem transfer (h : Represents cells bound d v)
    (lists : ∀ (i : Nat) ds, cells[i]? = some (.list ds) → after[i]? = some (.list ds))
    (maps : ∀ (i : Nat) ds, cells[i]? = some (.map ds) → after[i]? = some (.map ds)) {bound' : Nat}
    (hle : bound ≤ bound') : Represents after bound' d v := by
  induction h generalizing bound' with
  | null => exact .null
  | bool b => exact .bool b
  | int n => exact .int n
  | float x => exact .float x
  | text s => exact .text s
  | list below found length _ ih =>
      exact .list (Nat.lt_of_lt_of_le below hle) (lists _ _ found) length
        fun p hp => ih p hp (Nat.le_refl _)
  | map below found length _ _ ihkeys ihvalues =>
      exact .map (Nat.lt_of_lt_of_le below hle) (maps _ _ found) length
        (fun p hp => ihkeys p hp (Nat.le_refl _)) fun p hp => ihvalues p hp (Nat.le_refl _)

theorem mono (h : Represents cells bound d v) (kept : Kept cells after) {bound' : Nat}
    (hle : bound ≤ bound') : Represents after bound' d v :=
  h.transfer (fun i _ => kept i _) (fun i _ => kept i _) hle

/-- What is found in cells is found below their number. -/
theorem below_size (h : Represents cells bound d v) : Represents cells cells.size d v := by
  cases h with
  | null => exact .null
  | bool b => exact .bool b
  | int n => exact .int n
  | float x => exact .float x
  | text s => exact .text s
  | list _ found length each =>
      exact .list (Array.getElem?_eq_some_iff.1 found).1 found length each
  | map _ found length keys values =>
      exact .map (Array.getElem?_eq_some_iff.1 found).1 found length keys values

end Represents

/-- Data that stand for values, one for each. -/
abbrev RepresentAll (cells : Array Cell) (bound : Nat) : List Datum → List Value → Prop :=
  List.Forall₂ (Represents cells bound)

theorem RepresentAll.mono {cells after : Array Cell} {bound bound' : Nat} {ds : List Datum}
    {vs : List Value} (h : RepresentAll cells bound ds vs) (kept : Kept cells after)
    (hle : bound ≤ bound') : RepresentAll after bound' ds vs :=
  h.imp fun _ _ hd => hd.mono kept hle

/-- Data for the entries of a mapping. -/
abbrev RepresentEntries (cells : Array Cell) (bound : Nat) :
    List (Datum × Datum) → Entries → Prop :=
  List.Forall₂ fun e entry =>
    Represents cells bound e.1 entry.1 ∧ Represents cells bound e.2 entry.2

/-! ## Data of values -/

theorem ofValues_represents {vs : List Value}
    (each : ∀ v ∈ vs, ∀ m : Machine, ∃ d cells, Datum.ofValue v m = .ok (d, { m with cells }) ∧
      Kept m.cells cells ∧ Represents cells cells.size d v) (m : Machine) :
    ∃ ds cells, Datum.ofValues vs m = .ok (ds, { m with cells }) ∧ Kept m.cells cells ∧
      RepresentAll cells cells.size ds vs := by
  induction vs generalizing m with
  | nil => exact ⟨[], m.cells, rfl, Kept.refl _, .nil⟩
  | cons v vs ih =>
      obtain ⟨hv, hvs⟩ := List.forall_mem_cons.1 each
      obtain ⟨d, cells, hd, kept, represents⟩ := hv m
      obtain ⟨ds, cells', hds, kept', all⟩ := ih hvs { m with cells }
      refine ⟨d :: ds, cells', ?_, kept.trans kept',
        .cons (represents.mono kept' kept'.size_le) all⟩
      rw [Datum.ofValues, bind_of_ok hd, bind_of_ok hds]
      rfl

theorem ofEntries_represents {entries : Entries}
    (keys : ∀ e ∈ entries, ∀ m : Machine, ∃ d cells,
      Datum.ofValue e.1 m = .ok (d, { m with cells }) ∧ Kept m.cells cells ∧
      Represents cells cells.size d e.1)
    (values : ∀ e ∈ entries, ∀ m : Machine, ∃ d cells,
      Datum.ofValue e.2 m = .ok (d, { m with cells }) ∧ Kept m.cells cells ∧
      Represents cells cells.size d e.2) (m : Machine) :
    ∃ ds cells, Datum.ofEntries entries m = .ok (ds, { m with cells }) ∧ Kept m.cells cells ∧
      RepresentEntries cells cells.size ds entries := by
  induction entries generalizing m with
  | nil => exact ⟨[], m.cells, rfl, Kept.refl _, .nil⟩
  | cons e entries ih =>
      obtain ⟨key, value⟩ := e
      obtain ⟨hkey, hkeys⟩ := List.forall_mem_cons.1 keys
      obtain ⟨hvalue, hvalues⟩ := List.forall_mem_cons.1 values
      obtain ⟨k, cells, hk, kept, represents⟩ := hkey m
      obtain ⟨v, cells', hv, kept', represents'⟩ := hvalue { m with cells }
      obtain ⟨ds, cells'', hds, kept'', all⟩ := ih hkeys hvalues { m with cells := cells' }
      refine ⟨(k, v) :: ds, cells'', ?_, kept.trans (kept'.trans kept''),
        .cons ⟨represents.mono (kept'.trans kept'') (kept'.trans kept'').size_le,
          represents'.mono kept'' kept''.size_le⟩ all⟩
      rw [Datum.ofEntries, bind_of_ok hk, bind_of_ok hv, bind_of_ok hds]
      rfl

theorem represents_newList {cells : Array Cell} {ds : List Datum} {vs : List Value}
    (all : RepresentAll cells cells.size ds vs) :
    Represents (cells.push (.list ds)) (cells.push (.list ds)).size (.list cells.size)
      (.list vs) := by
  obtain ⟨length, each⟩ := List.forall₂_iff_zip.1 all
  exact .list (by simp) (by simp) length fun p hp =>
    (each hp).mono (Kept.push cells _) (Nat.le_refl _)

theorem represents_newMap {cells : Array Cell} {ds : List (Datum × Datum)} {entries : Entries}
    (all : RepresentEntries cells cells.size ds entries) :
    Represents (cells.push (.map ds)) (cells.push (.map ds)).size (.map cells.size)
      (.map entries) := by
  obtain ⟨length, each⟩ := List.forall₂_iff_zip.1 all
  exact .map (by simp) (by simp) length
    (fun p hp => (each hp).1.mono (Kept.push cells _) (Nat.le_refl _))
    fun p hp => (each hp).2.mono (Kept.push cells _) (Nat.le_refl _)

theorem ofValue_represents {v : Value} (simple : v.Simple) (m : Machine) :
    ∃ d cells, Datum.ofValue v m = .ok (d, { m with cells }) ∧ Kept m.cells cells ∧
      Represents cells cells.size d v := by
  induction simple generalizing m with
  | null => exact ⟨.null, m.cells, rfl, Kept.refl _, .null⟩
  | bool b => exact ⟨.bool b, m.cells, rfl, Kept.refl _, .bool b⟩
  | int n => exact ⟨.int n, m.cells, rfl, Kept.refl _, .int n⟩
  | float x => exact ⟨.float x, m.cells, rfl, Kept.refl _, .float x⟩
  | text s => exact ⟨.plain s, m.cells, rfl, Kept.refl _, .text s⟩
  | list _ ih =>
      obtain ⟨ds, cells, hds, kept, all⟩ := ofValues_represents ih m
      refine ⟨.list cells.size, cells.push (.list ds), ?_, kept.trans (Kept.push _ _),
        represents_newList all⟩
      rw [Datum.ofValue, bind_of_ok hds]
      rfl
  | map _ _ ihkeys ihvalues =>
      obtain ⟨ds, cells, hds, kept, all⟩ := ofEntries_represents ihkeys ihvalues m
      refine ⟨.map cells.size, cells.push (.map ds), ?_, kept.trans (Kept.push _ _),
        represents_newMap all⟩
      rw [Datum.ofValue, bind_of_ok hds]
      rfl

/-! ## Contents of cells -/

theorem cell_of_found {m : Machine} {ref : Nat} {content : Cell}
    (found : m.cells[ref]? = some content) : cell ref m = .ok (content, m) := by
  rw [cell, Array.getD_eq_getD_getElem?, found, Option.getD_some]

theorem listItems_of_found {m : Machine} {ref : Nat} {ds : List Datum}
    (found : m.cells[ref]? = some (.list ds)) : listItems ref m = .ok (ds, m) := by
  rw [listItems, bind_of_ok (cell_of_found found)]
  rfl

theorem mapEntries_of_found {m : Machine} {ref : Nat} {ds : List (Datum × Datum)}
    (found : m.cells[ref]? = some (.map ds)) : mapEntries ref m = .ok (ds, m) := by
  rw [mapEntries, bind_of_ok (cell_of_found found)]
  rfl

theorem isEmpty_congr {α β : Type} {xs : List α} {ys : List β} (h : xs.length = ys.length) :
    xs.isEmpty = ys.isEmpty := by
  rw [Bool.eq_iff_iff, List.isEmpty_iff_length_eq_zero, List.isEmpty_iff_length_eq_zero, h]

/-! ## Names of data -/

variable {cells : Array Cell} {bound : Nat} {d : Datum} {v : Value} {name : String}

theorem IsKey.not_common (key : IsKey name) : name ∉ Datum.commonNames := by
  intro mem
  have hcommon : Datum.commonNames.all isReserved = true := by decide
  have hreserved := List.all_eq_true.1 hcommon name mem
  rw [key.notReserved] at hreserved
  cases hreserved

theorem IsKey.not_class (key : IsKey name) : name ≠ "__class__" :=
  fun h => key.not_common (h ▸ List.mem_cons_self)

theorem lookup_methods (represents : Represents cells bound d v) (own : name ∉ v.nativeNames) :
    d.methods.lookup name = none := by
  rw [List.lookup_eq_none_iff]
  rintro ⟨method, counting⟩ mem
  refine bne_iff_ne.2 fun heq => own ?_
  have hname : name ∈ d.methods.map (·.1) := List.mem_map.2 ⟨(method, counting), mem, heq.symm⟩
  cases represents with
  | null => cases mem
  | bool b => exact List.mem_append_right _ hname
  | int n => exact List.mem_append_right _ hname
  | float x => exact List.mem_append_right _ hname
  | text s => exact List.mem_cons_of_mem _ hname
  | list => exact hname
  | map => exact hname

theorem attribute?_represents (policy : MissingKeyPolicy) {m : Machine}
    (represents : Represents m.cells bound d v) (key : IsKey name) (own : name ∉ v.nativeNames) :
    attribute? policy d name m = .ok (none, m) := by
  have hmethods := lookup_methods represents own
  have hclass := key.not_class
  have hcommon := key.not_common
  cases represents with
  | bool b =>
      simp only [Value.nativeNames, List.mem_append, List.mem_cons, not_or] at own
      simp [attribute?, hmethods, hclass, hcommon, own]
      rfl
  | int n =>
      simp only [Value.nativeNames, List.mem_append, List.mem_cons, not_or] at own
      simp [attribute?, hmethods, hclass, hcommon, own]
      rfl
  | float x =>
      simp only [Value.nativeNames, List.mem_append, List.mem_cons, not_or] at own
      simp [attribute?, hmethods, hclass, hcommon, own]
      rfl
  | _ => simp [attribute?, hmethods, hclass, hcommon]; rfl

/-- Whatever is in its cell, a list is compared as a list. -/
theorem listShape_ne (cell : Cell) (a : Datum) :
    (match cell with
      | .list items => Sum.inr ("list", items)
      | _ => Sum.inr ("list", [])) ≠ (Sum.inl a : Datum ⊕ (String × List Datum)) := by
  cases cell <;> exact Sum.inr_ne_inl

theorem equalIn_represents (cells : Array Cell) (fuel : Nat)
    (represents : Represents cells bound d v) (s : String) :
    d.equalIn cells (fuel + 1) (.text s false) = v.same (.text s) := by
  have hother (hne : v ≠ .text s) : v.same (.text s) = false := by
    rw [← Bool.not_eq_true, Value.same_text_right_iff]
    exact hne
  cases represents with
  | @list _ ref =>
      rw [hother (by simp), Datum.equalIn]
      split
      · next h => cases h
      · next a b h _ => exact absurd h (listShape_ne (cells.getD ref default) a)
      · rfl
  | text t => rw [Value.same_text]; rfl
  | _ => rw [hother (by simp)]; rfl

theorem findEntry_represents {m : Machine} {ds : List (Datum × Datum)} {entries : Entries}
    (all : RepresentEntries m.cells bound ds entries) (name : String) :
    ∃ found, findEntry (.plain name) ds m = .ok (found, m) ∧
      Option.Rel (Represents m.cells bound) found (entries.get? (.text name)) := by
  induction all with
  | nil => exact ⟨none, rfl, .none⟩
  | @cons e entry ds entries represents _ ih =>
      obtain ⟨k, x⟩ := e
      obtain ⟨key, value⟩ := entry
      have hkey : sameKey k (.plain name) m = .ok (key.same (.text name), m) := by
        have hequal := equalIn_represents m.cells 1999 represents.1 name
        exact congrArg (fun b => Except.ok (b, m)) hequal
      rw [Entries.get?]
      cases hsame : key.same (.text name) with
      | true =>
          refine ⟨some x, ?_, .some represents.2⟩
          rw [findEntry, bind_of_ok hkey, hsame]
          rfl
      | false =>
          obtain ⟨found, hfound, hrel⟩ := ih
          refine ⟨found, ?_, hrel⟩
          rw [findEntry, bind_of_ok hkey, hsame]
          exact hfound

/-! ## Uses of data -/

/-- What an expression finds that looks for a value: a datum for it if there is one, and otherwise
a missing value, which may also have been used already. -/
inductive Finds (policy : MissingKeyPolicy) (m : Machine) :
    Option Value → Except TemplateError (Datum × Machine) → Prop
  | found {bound : Nat} {d : Datum} {v : Value} (represents : Represents m.cells bound d v) :
      Finds policy m (some v) (.ok (d, m))
  | missing (message : String) :
      Finds policy m none (.ok (.undefined policy.missing message, m))
  | used (strict : policy = .error) (message : String) :
      Finds policy m none (.error (.undefined message))

theorem item?_represents (blocks : List String) {m : Machine}
    (represents : Represents m.cells bound d v) (name : String) :
    ∃ found, item? blocks d (.plain name) m = .ok (found, m) ∧
      Option.Rel (Represents m.cells bound) found (v.field? name) := by
  cases represents with
  | @map _ ref ds entries below found length keys values =>
      have all : RepresentEntries m.cells bound ds entries := List.forall₂_iff_zip.2
        ⟨length, fun hp => ⟨(keys _ hp).mono (Kept.refl _) (Nat.le_of_lt below),
          (values _ hp).mono (Kept.refl _) (Nat.le_of_lt below)⟩⟩
      obtain ⟨x, hx, hrel⟩ := findEntry_represents all name
      refine ⟨x, ?_, hrel⟩
      simp only [item?, Datum.plain, bind, StateT.bind, Except.bind, mapEntries_of_found found]
      exact hx
  | @list _ ref ds vs below found =>
      refine ⟨none, ?_, .none⟩
      simp only [item?, Datum.plain, bind, StateT.bind, Except.bind, listItems_of_found found]
      rfl
  | _ => exact ⟨none, rfl, .none⟩

theorem getAttribute_represents (s : Setting) {m : Machine}
    (represents : Represents m.cells bound d v) (key : IsKey name) (own : name ∉ v.nativeNames) :
    Finds s.policy m (v.field? name) (getAttribute s d name m) := by
  have hattribute := attribute?_represents s.policy represents key own
  obtain ⟨found, hitem, hrel⟩ := item?_represents (s.blocks.map (·.1)) represents name
  rw [getAttribute]
  simp only [bind_of_ok hattribute, bind_of_ok hitem]
  generalize v.field? name = value? at hrel
  cases hrel with
  | none => exact .missing _
  | some represents => exact .found represents

/-- A missing value has no keys either, and looking for one is a use of it. -/
theorem getAttribute_missing (s : Setting) (message : String) (m : Machine) (key : IsKey name) :
    Finds s.policy m none (getAttribute s (.undefined s.policy.missing message) name m) := by
  have hclass := key.not_class
  obtain ⟨policy, environment, blocks⟩ := s
  cases policy with
  | zero =>
      have hfound :
          getAttribute ⟨.zero, environment, blocks⟩ (.undefined .chainable message) name m =
          .ok (.undefined .chainable message, m) := by
        cases hspecial : isSpecialName name <;>
          simp [getAttribute, attribute?, item?, hspecial, hclass, bind, StateT.bind,
            Except.bind] <;>
          rfl
      exact hfound ▸ .missing message
  | error =>
      have hused : getAttribute ⟨.error, environment, blocks⟩ (.undefined .strict message) name m =
          .error (.undefined message) := by
        cases hspecial : isSpecialName name <;>
          simp [getAttribute, attribute?, item?, hspecial, hclass, bind, StateT.bind,
            Except.bind] <;>
          rfl
      exact hused ▸ .used rfl message

theorem truthy_represents {m : Machine} (represents : Represents m.cells bound d v) :
    truthy d m = .ok (v.truthy, m) := by
  cases represents with
  | list below found length =>
      rw [truthy, bind_of_ok (listItems_of_found found), Value.truthy, ← isEmpty_congr length]
      rfl
  | map below found length =>
      rw [truthy, bind_of_ok (mapEntries_of_found found), Value.truthy, ← isEmpty_congr length]
      rfl
  | _ => rfl

/-- What a datum yields stands for what the value yields, unless that yields nothing. -/
theorem elements_represents {m : Machine} (represents : Represents m.cells bound d v) :
    (∃ ds vs, elements d m = .ok (ds, m) ∧ v.items = .ok vs ∧ RepresentAll m.cells bound ds vs) ∨
      ∃ e, elements d m = .error e ∧ v.items = .error e := by
  cases represents with
  | text s =>
      refine Or.inl ⟨_, _, rfl, rfl, ?_⟩
      rw [RepresentAll, List.forall₂_map_left_iff, List.forall₂_map_right_iff]
      exact List.forall₂_same.2 fun c _ => .text (.singleton c)
  | list below found length each =>
      refine Or.inl ⟨_, _, ?_, rfl, List.forall₂_iff_zip.2 ⟨length, fun hp =>
        (each _ hp).mono (Kept.refl _) (Nat.le_of_lt below)⟩⟩
      simp only [elements, elements?, bind, StateT.bind, Except.bind, listItems_of_found found]
      rfl
  | @map _ _ ds entries below found length keys =>
      have all : RepresentAll m.cells bound (ds.map (·.1)) (Entries.keys entries) := by
        rw [Entries.keys, RepresentAll, List.forall₂_map_left_iff, List.forall₂_map_right_iff]
        exact List.forall₂_iff_zip.2 ⟨length, fun hp =>
          (keys _ hp).mono (Kept.refl _) (Nat.le_of_lt below)⟩
      refine Or.inl ⟨_, _, ?_, rfl, all⟩
      simp only [elements, elements?, bind, StateT.bind, Except.bind, mapEntries_of_found found]
      rfl
  | _ => exact Or.inr ⟨_, rfl, rfl⟩

/-! ## Texts of data -/

/-- Parts that all have a text, unless one of them is too long for one. -/
theorem mapM_unless {α β γ : Type} {f : α → Except TemplateError γ} {b : β → Bool} {g : β → γ}
    {xs : List α} {ys : List β} (length : xs.length = ys.length)
    (h : ∀ x y, (x, y) ∈ xs.zip ys → f x = if b y then .error .longText else .ok (g y)) :
    xs.mapM f = if ys.any b then .error .longText else .ok (ys.map g) := by
  have all : List.Forall₂ (fun x y => f x = if b y then .error .longText else .ok (g y)) xs ys :=
    List.forall₂_iff_zip.2 ⟨length, fun hp => h _ _ hp⟩
  clear length h
  induction all with
  | nil => rfl
  | @cons x y xs ys hxy _ ih =>
      rw [List.mapM_cons, hxy, ih, List.any_cons, List.map_cons]
      cases b y with
      | true => rfl
      | false => cases ys.any b <;> rfl

/-- Two texts around a colon, unless one of them is too long. -/
theorem bind_unless {x y : Except TemplateError String} {b c : Bool} {s t : String}
    (hx : x = if b then .error .longText else .ok s)
    (hy : y = if c then .error .longText else .ok t) :
    (do return (← x) ++ ": " ++ (← y) : Except TemplateError String) =
      if b || c then .error .longText else .ok (s ++ ": " ++ t) := by
  rw [hx, hy]
  cases b with
  | true => rfl
  | false => cases c <;> rfl

theorem map_unless {α β : Type} (f : α → β) (b : Bool) (a : α) :
    f <$> (if b then .error .longText else .ok a : Except TemplateError α) =
      if b then .error .longText else .ok (f a) := by
  cases b <;> rfl

theorem quotedIn_listCell (cells : Array Cell) (within : List Nat) (ref depth : Nat) :
    Datum.quotedIn cells within (depth + 1) (.list ref) =
      if within.contains ref then .ok "[...]"
      else
        match cells.getD ref default with
        | .list ds =>
          Value.bracketed "[" "]" <$> ds.mapM (Datum.quotedIn cells (ref :: within) depth)
        | _ => .ok "[]" :=
  rfl

theorem quotedIn_mapCell (cells : Array Cell) (within : List Nat) (ref depth : Nat) :
    Datum.quotedIn cells within (depth + 1) (.map ref) =
      if within.contains ref then .ok "\x7b...\x7d"
      else
        match cells.getD ref default with
        | .map ds => Value.bracketed "\x7b" "\x7d" <$> ds.mapM fun e => do
            return (← Datum.quotedIn cells (ref :: within) depth e.1) ++ ": " ++
              (← Datum.quotedIn cells (ref :: within) depth e.2)
        | _ => .ok "\x7b\x7d" :=
  rfl

theorem quotedIn_list {within : List Nat} {ref : Nat} {ds : List Datum}
    (found : cells[ref]? = some (.list ds)) (new : ref ∉ within) (depth : Nat) :
    Datum.quotedIn cells within (depth + 1) (.list ref) =
      Value.bracketed "[" "]" <$> ds.mapM (Datum.quotedIn cells (ref :: within) depth) := by
  rw [quotedIn_listCell, Array.getD_eq_getD_getElem?, found, Option.getD_some,
    if_neg (by simpa using new)]

theorem quotedIn_map {within : List Nat} {ref : Nat} {ds : List (Datum × Datum)}
    (found : cells[ref]? = some (.map ds)) (new : ref ∉ within) (depth : Nat) :
    Datum.quotedIn cells within (depth + 1) (.map ref) =
      Value.bracketed "\x7b" "\x7d" <$> ds.mapM fun e => do
        return (← Datum.quotedIn cells (ref :: within) depth e.1) ++ ": " ++
          (← Datum.quotedIn cells (ref :: within) depth e.2) := by
  rw [quotedIn_mapCell, Array.getD_eq_getD_getElem?, found, Option.getD_some,
    if_neg (by simpa using new)]

/-- Outside of all its containers, a datum is quoted as the value is. -/
theorem quotedIn_represents (represents : Represents cells bound d v) {within : List Nat}
    (outside : ∀ ref ∈ within, bound ≤ ref) (depth : Nat) :
    d.quotedIn cells within depth =
      if v.isTooLongTo depth then .error .longText else .ok (v.quotedTo depth) := by
  induction represents generalizing within depth with
  | @list bound ref ds vs below found length _ ih =>
      cases depth with
      | zero => rfl
      | succ depth =>
          have hnew : ref ∉ within := fun mem => Nat.not_le_of_lt below (outside ref mem)
          have hinner : ∀ r ∈ ref :: within, ref ≤ r := List.forall_mem_cons.2
            ⟨Nat.le_refl _, fun r hr => Nat.le_trans (Nat.le_of_lt below) (outside r hr)⟩
          rw [quotedIn_list found hnew, mapM_unless length fun _ _ hp => ih _ hp hinner depth,
            map_unless]
          rfl
  | @map bound ref ds entries below found length _ _ ihkeys ihvalues =>
      cases depth with
      | zero => rfl
      | succ depth =>
          have hnew : ref ∉ within := fun mem => Nat.not_le_of_lt below (outside ref mem)
          have hinner : ∀ r ∈ ref :: within, ref ≤ r := List.forall_mem_cons.2
            ⟨Nat.le_refl _, fun r hr => Nat.le_trans (Nat.le_of_lt below) (outside r hr)⟩
          rw [quotedIn_map found hnew, mapM_unless length fun e entry hp =>
            bind_unless (b := entry.1.isTooLongTo depth) (c := entry.2.isTooLongTo depth)
              (s := entry.1.quotedTo depth) (t := entry.2.quotedTo depth)
              (ihkeys (e, entry) hp hinner depth) (ihvalues (e, entry) hp hinner depth), map_unless]
          rfl
  | _ => cases depth <;> rfl

theorem display_represents {m : Machine} (represents : Represents m.cells bound d v) :
    display d m = v.written.map (·, m) := by
  have hquoted := quotedIn_represents represents (List.forall_mem_nil (bound ≤ ·)) displayDepth
  cases represents with
  | text s => rfl
  | _ => rw [display, quoted, hquoted, Value.written] <;> nofun

end ImagePreload.Template
