import ImagePreload.Proofs.Entries
import ImagePreload.Proofs.Orchestration
import ImagePreload.Value.Lookup
import Mathlib.Logic.Function.Basic

/-!
# What becomes of namespaces

A cluster keeps namespaces by name. Whoever asks for a deletion does not see it
happen: the namespace fades at some later time. When it does is up to the cluster
and part of its state, so what is proved here holds of every order in which
namespaces go. Little else is assumed (`Answerer.Keeps`), and every request may
fail.

As long as no namespace is created, what is there was there before, with the same
labels (`Within`). That carries the whole argument: a marked namespace that is
still there when the last poll is answered would be among those found, and a
namespace that is gone stays gone.
-/

namespace ImagePreload

/-- A namespace, and whether its deletion was asked for. -/
structure Namespace where
  labels : Entries
  deleting : Bool

/-- The namespaces of a cluster by name. -/
abbrev Namespaces := String → Option Namespace

/-- The key and the value that a selector asks for. -/
def requirement? (text : String) : Option (String × String) :=
  match text.toList.span (· != '=') with
  | (key, _ :: value) => some (String.ofList key, String.ofList value)
  | (_, []) => none

/-- Whether a selector finds something with some labels. A selector without a
value asks for the key only. -/
def Selector.finds (selector : Selector) (labels : Entries) : Bool :=
  match selector with
  | none => true
  | some text =>
    match requirement? text with
    | some (key, value) => (labels.get? (.text key)).any (Value.text value).same
    | none => labels.contains (.text text)

/-- The label that sweeps look for. -/
def Namespace.Marked (ns : Namespace) : Prop :=
  ns.labels.get? (.text markerLabel) = some (.text markerValue)

theorem requirement?_marker : requirement? markerSelector = some (markerLabel, markerValue) := by
  decide +kernel

theorem finds_marker_iff {labels : Entries} :
    Selector.finds (some markerSelector) labels = true ↔
      labels.get? (.text markerLabel) = some (.text markerValue) := by
  simp only [Selector.finds, requirement?_marker]
  cases labels.get? (.text markerLabel) with
  | none => simp
  | some v => simp [Value.same_text_iff]

/-- Whatever labels are asked for, the marker is among those that are given. -/
theorem markedLabels_get? (labels : Entries) :
    (markedLabels labels).get? (.text markerLabel) = some (.text markerValue) :=
  Entries.get?_insert _ _ (by simp) labels

/-! ## Clusters -/

/-- The name that a manifest gives. -/
def manifestName? (manifest : Value) : Option String :=
  match manifest.at? ["metadata", "name"] with
  | some (.text name) => some name
  | _ => none

/-- The labels that a manifest gives. -/
def manifestLabels (manifest : Value) : Entries :=
  match manifest.at? ["metadata", "labels"] with
  | some (.map labels) => labels
  | _ => []

theorem stagingManifest_name (name : String) (labels annotations : Entries) :
    manifestName? (stagingManifest (.text name) labels annotations) = some name := by
  simp [manifestName?, stagingManifest, record, Value.at?, Value.field?, Entries.get?]

theorem stagingManifest_labels (name : Value) (labels annotations : Entries) :
    manifestLabels (stagingManifest name labels annotations) = markedLabels labels := by
  simp [manifestLabels, stagingManifest, record, Value.at?, Value.field?, Entries.get?]

/-- Namespaces whose deletion was asked for may be gone at any time. -/
def Fades (c c' : Namespaces) : Prop :=
  ∀ name, c' name = c name ∨ c' name = none ∧ ∃ ns, c name = some ns ∧ ns.deleting = true

/-- How a cluster answers a request and what namespaces it has afterwards. Names
are taken once, listings are exact, what is to be deleted has to exist, and
nothing changes when a request fails. -/
inductive Answers : Request → Namespaces → Reply → Namespaces → Prop where
  | created {manifest : Value} {name : String} {c : Namespaces} (names : List String)
    (named : manifestName? manifest = some name) (free : c name = none) :
    Answers (.createNamespace manifest) c (.ok names)
      (Function.update c name (some ⟨manifestLabels manifest, false⟩))
  | loaded (manifest : Value) (c : Namespaces) (names : List String) :
    Answers (.createWorkload manifest) c (.ok names) c
  | listed {selector : Selector} {c : Namespaces} {names : List String}
    (found : ∀ name, name ∈ names ↔ ∃ ns, c name = some ns ∧ selector.finds ns.labels = true) :
    Answers (.list selector) c (.ok names) c
  | deleted {name : String} {ns : Namespace} {c : Namespaces} (names : List String)
    (present : c name = some ns) :
    Answers (.delete name) c (.ok names)
      (Function.update c name (some { ns with deleting := true }))
  | failed (request : Request) (c : Namespaces) (f : ClusterFailure) :
    Answers request c (.error f) c

variable {ε σ τ α : Type}

/-- Something that answers as a cluster does whose namespaces are seen in its
state, and on which nobody else acts. -/
def Answerer.Keeps (answer : Answerer σ τ) (view : σ → Namespaces) : Prop :=
  ∀ request s, ∃ c c', Fades (view s) c ∧ Answers request c (answer.reply request s) c' ∧
    Fades c' (view (answer.after request s))

/-- What is left of some namespaces, with the labels they had. -/
def Within (base c : Namespaces) : Prop :=
  ∀ name ns, c name = some ns → ∃ ns₀, base name = some ns₀ ∧ ns₀.labels = ns.labels

theorem Within.refl (c : Namespaces) : Within c c := fun _ ns h => ⟨ns, h, rfl⟩

theorem Within.trans {c₁ c₂ c₃ : Namespaces} (h₁ : Within c₁ c₂) (h₂ : Within c₂ c₃) :
    Within c₁ c₃ := by
  intro name ns h
  obtain ⟨ns₂, hns₂, hlabels₂⟩ := h₂ name ns h
  obtain ⟨ns₁, hns₁, hlabels₁⟩ := h₁ name ns₂ hns₂
  exact ⟨ns₁, hns₁, hlabels₁.trans hlabels₂⟩

theorem Within.eq_none {base c : Namespaces} (h : Within base c) {name : String}
    (hbase : base name = none) : c name = none := by
  cases hc : c name with
  | none => rfl
  | some ns =>
      obtain ⟨ns₀, hns₀, -⟩ := h name ns hc
      rw [hbase] at hns₀
      cases hns₀

theorem Within.marked {base c : Namespaces} (h : Within base c) {name : String}
    {ns ns' : Namespace} (hns : base name = some ns) (hns' : c name = some ns')
    (hmarked : ns.Marked) : ns'.Marked := by
  obtain ⟨ns₀, hns₀, hlabels⟩ := h name ns' hns'
  rw [hns, Option.some.injEq] at hns₀
  rw [Namespace.Marked, ← hlabels, ← hns₀]
  exact hmarked

theorem Fades.refl (c : Namespaces) : Fades c c := fun _ => Or.inl rfl

theorem Fades.eq_some {c c' : Namespaces} (h : Fades c c') {name : String} {ns : Namespace}
    (hns : c' name = some ns) : c name = some ns := by
  rcases h name with heq | ⟨hnone, -⟩
  · rw [← heq]
    exact hns
  · rw [hnone] at hns
    cases hns

theorem Fades.within {c c' : Namespaces} (h : Fades c c') : Within c c' :=
  fun _ ns hns => ⟨ns, h.eq_some hns, rfl⟩

/-- Only the creation of a namespace adds one. -/
theorem Answers.within {request : Request} {c c' : Namespaces} {reply : Reply}
    (h : Answers request c reply c') (hrequest : ∀ manifest, request ≠ .createNamespace manifest) :
    Within c c' := by
  cases h with
  | created names named free => exact absurd rfl (hrequest _)
  | loaded manifest c names => exact .refl _
  | listed found => exact .refl _
  | failed request c f => exact .refl _
  | @deleted name ns c names present =>
      intro other ns' hns'
      by_cases hother : other = name
      · subst hother
        rw [Function.update_self, Option.some.injEq] at hns'
        exact ⟨ns, present, by rw [← hns']⟩
      · rw [Function.update_of_ne hother] at hns'
        exact ⟨ns', hns', rfl⟩

section

variable {answer : Answerer σ τ} {view : σ → Namespaces}

theorem Answerer.Keeps.within (law : answer.Keeps view) {request : Request}
    (hrequest : ∀ manifest, request ≠ .createNamespace manifest) (s : σ) :
    Within (view s) (view (answer.after request s)) := by
  obtain ⟨c, c', hbefore, hanswer, hafter⟩ := law request s
  exact hbefore.within.trans ((hanswer.within hrequest).trans hafter.within)

theorem Answerer.Keeps.within_list (law : answer.Keeps view) (selector : Selector) (s : σ) :
    Within (view s) (view (answer.after (.list selector) s)) :=
  law.within (fun _ heq => by cases heq) s

/-- A listing finds nothing that was not there, and everything that is left. -/
theorem Answerer.Keeps.listed (law : answer.Keeps view) {selector : Selector} {s : σ}
    {names : List String} (h : answer.reply (.list selector) s = .ok names) :
    (∀ name ∈ names, ∃ ns, view s name = some ns ∧ selector.finds ns.labels = true) ∧
      ∀ name ns, view (answer.after (.list selector) s) name = some ns →
        selector.finds ns.labels = true → name ∈ names := by
  obtain ⟨c, c', hbefore, hanswer, hafter⟩ := law (.list selector) s
  rw [h] at hanswer
  cases hanswer with
  | listed found =>
      constructor
      · intro name hname
        obtain ⟨ns, hns, hfinds⟩ := (found name).1 hname
        exact ⟨ns, hbefore.eq_some hns, hfinds⟩
      · intro name ns hns hfinds
        exact (found name).2 ⟨ns, hafter.eq_some hns, hfinds⟩

/-- A namespace that is created was not there, and has what the manifest says as
long as it is there. -/
theorem Answerer.Keeps.created (law : answer.Keeps view) {manifest : Value} {name : String}
    {s : σ} {names : List String} (hname : manifestName? manifest = some name)
    (h : answer.reply (.createNamespace manifest) s = .ok names) {ns : Namespace}
    (hns : view (answer.after (.createNamespace manifest) s) name = some ns) :
    ns.labels = manifestLabels manifest := by
  obtain ⟨c, c', hbefore, hanswer, hafter⟩ := law (.createNamespace manifest) s
  rw [h] at hanswer
  cases hanswer with
  | @created _ name' _ _ named free =>
      rw [hname, Option.some.injEq] at named
      subst named
      have hupdated := hafter.eq_some hns
      rw [Function.update_self, Option.some.injEq] at hupdated
      rw [← hupdated]

/-- A marked namespace that a listing does not find is gone. -/
theorem Answerer.Keeps.unlisted (law : answer.Keeps view) {base : Namespaces} {s : σ}
    (hbase : Within base (view s)) {names : List String}
    (hlisted : answer.reply (.list (some markerSelector)) s = .ok names) {name : String}
    (hname : name ∉ names) {ns : Namespace} (hns : base name = some ns) (hmarked : ns.Marked) :
    view (answer.after (.list (some markerSelector)) s) name = none := by
  have hafter := hbase.trans (law.within_list (some markerSelector) s)
  cases hleft : view (answer.after (.list (some markerSelector)) s) name with
  | none => rfl
  | some ns' =>
      have hfinds := finds_marker_iff.2 (hafter.marked hns hleft hmarked)
      exact absurd ((law.listed hlisted).2 name ns' hleft hfinds) hname

variable [Clock τ]

/-- Nothing is added while a program runs that creates no namespace. -/
theorem Program.course_within (law : answer.Keeps view) (p : Program ε τ α) {s : σ} {now : τ}
    (made : ∀ found t request reply, .asked found t request reply ∈
      (p.course answer s now).steps → ∀ manifest, request ≠ .createNamespace manifest) :
    Within (view s) (view (p.course answer s now).state) ∧
      ∀ found t request reply, .asked found t request reply ∈ (p.course answer s now).steps →
        Within (view s) (view found) := by
  have keep : ∀ request s', (∀ manifest, request ≠ .createNamespace manifest) →
      Within (view s) (view s') → Within (view s) (view (answer.after request s')) :=
    fun request s' hrequest hs' => hs'.trans (law.within hrequest s')
  exact Program.course_keeps answer keep p made (.refl _)

/-! ## Sweeps -/

theorem Sweep.run_within (law : answer.Keeps view) (sw : Sweep τ) (s : σ) (now : τ) :
    Within (view s) (view (sw.run.course answer s now).state) ∧
      ∀ found t request reply, .asked found t request reply ∈ (sw.run.course answer s now).steps →
        Within (view s) (view found) :=
  Program.course_within law _ fun _ _ _ _ hmem manifest =>
    (Sweep.run_creates_none hmem manifest).1

theorem Sweep.deletions_within (law : answer.Keeps view) (sw : Sweep τ) (s : σ) (now : τ)
    (names : List String) :
    Within (view (answer.after (.list sw.selector) s))
      (view (sw.deletions answer s now names).state) := by
  refine (Program.course_within law _ fun found t request reply hmem manifest => ?_).1
  obtain ⟨name, -, hrequest⟩ := Sweep.deletions_requests hmem
  rw [hrequest]
  exact Request.noConfusion

theorem Sweep.waiting_within (law : answer.Keeps view) (sw : Sweep τ) (s : σ) (now : τ)
    (names : List String) :
    Within (view (sw.deletions answer s now names).state)
      (view (sw.waiting answer s now names).state) := by
  refine (Program.course_within law _ fun found t request reply hmem manifest => ?_).1
  rw [Sweep.waiting_requests hmem]
  exact Request.noConfusion

theorem not_mem_of_filter_eq_nil {found names : List String}
    (h : found.filter names.contains = []) {name : String} (hname : name ∈ names) :
    name ∉ found := by
  intro hfound
  have hmem := List.mem_filter.2 ⟨hfound, List.contains_iff_mem.2 hname⟩
  rw [h] at hmem
  cases hmem

/-- What a wait was about is gone when it succeeds. -/
theorem Sweep.remaining_clears (law : answer.Keeps view) {sw : Sweep τ}
    (hsw : sw.selector = some markerSelector) {base : Namespaces} {names : List String}
    (deadline : τ) (rounds : Nat) {s : σ} {now : τ} (hbase : Within base (view s))
    (hok : ((sw.remaining names (sw.wait names deadline rounds)).course answer s now).outcome =
      some (.ok ())) {name : String} (hname : name ∈ names) {ns : Namespace}
    (hns : base name = some ns) (hmarked : ns.Marked) :
    view ((sw.remaining names (sw.wait names deadline rounds)).course answer s now).state name =
      none := by
  have hpolled := hbase.trans (law.within_list sw.selector s)
  rw [Sweep.poll_course] at hok ⊢
  cases hreply : answer.reply (.list sw.selector) s with
  | error f =>
      rw [hreply] at hok
      cases hok
  | ok found =>
      rw [hreply] at hok
      simp only [Sweep.wait_course, Course.precede_outcome, Course.precede_state] at hok ⊢
      by_cases hgone : found.filter names.contains = []
      · -- this was the last poll
        rw [if_pos hgone]
        rw [hsw] at hreply ⊢
        exact law.unlisted hbase hreply (not_mem_of_filter_eq_nil hgone hname) hns hmarked
      · rw [if_neg hgone] at hok ⊢
        split at hok
        · cases hok
        · next hlate =>
            rw [if_neg hlate]
            cases rounds with
            | zero => cases hok
            | succ rounds =>
                exact Sweep.remaining_clears law hsw deadline rounds hpolled hok hname hns hmarked
termination_by rounds

/-- When a sweep succeeds, all marked namespaces that were there at its start are
gone. -/
theorem Sweep.run_clears (law : answer.Keeps view) {sw : Sweep τ}
    (hsw : sw.selector = some markerSelector) {s : σ} {now : τ} {swept : List String}
    (hok : (sw.run.course answer s now).outcome = some (.ok swept)) {name : String}
    {ns : Namespace} (hns : view s name = some ns) (hmarked : ns.Marked) :
    view (sw.run.course answer s now).state name = none := by
  have hunlisted {names : List String} (hlisted : answer.reply (.list sw.selector) s = .ok names)
      (hname : name ∉ names) : view (answer.after (.list sw.selector) s) name = none := by
    rw [hsw] at hlisted ⊢
    exact law.unlisted (.refl _) hlisted hname hns hmarked
  cases sw.run_went answer s now with
  | refused hlisted hc | cut hlisted hcut hc | failed hlisted hdeleted hfailed hc =>
      rw [hc] at hok
      cases hok
  | empty hlisted hc =>
      rw [hc]
      exact hunlisted hlisted List.not_mem_nil
  | @waited names hlisted hnames hdeleted hfailed hc =>
      rw [hc] at hok ⊢
      have hdeletions := sw.deletions_within law s now names
      by_cases hname : name ∈ names
      · obtain ⟨⟨⟩, hwaited⟩ := Course.eq_ok_of_map hok
        exact Sweep.remaining_clears law hsw _ _
          ((law.within_list sw.selector s).trans hdeletions) hwaited hname hns hmarked
      · exact (hdeletions.trans (sw.waiting_within law s now names)).eq_none
          (hunlisted hlisted hname)

/-! ## Jobs -/

namespace PreLoader

/-- A job creates its namespace at once. -/
theorem created_at_start {p : PreLoader τ} {job : Job τ} {s found : σ} {now t : τ}
    {manifest : Value} {reply : Reply}
    (h : .asked found t (.createNamespace manifest) reply ∈
      ((p.preloadImages job).course answer s now).steps) : found = s := by
  rw [← asked_mem_calls] at h
  cases p.preloadImages_went job answer s now with
  | unread extracted plain hc | nothing extracted plain hc =>
      rw [hc, plain.calls_eq] at h
      cases h
  | refused extracted foundSome hcreated plain hc =>
      rw [hc, plain.calls_eq, List.mem_singleton] at h
      injection h
  | created extracted foundSome hcreated plain hc =>
      rw [hc, plain.calls_precede, List.mem_cons] at h
      rcases h with heq | hmem
      · injection heq
      · exact absurd hmem fill_creates_none

/-- Of what is asked for when a namespace is filled, all but the workload belongs
to one sweep. -/
theorem fill_sweeps {p : PreLoader τ} {job : Job τ} {images : List String} {s found : σ}
    {now t : τ} {request : Request} {reply : Reply}
    (h : .asked found t request reply ∈ calls ((p.fill job images).course answer s now).steps)
    (hrequest : ∀ manifest, request ≠ .createWorkload manifest) :
    ∃ now', .asked found t request reply ∈
        (p.cleanup.course answer (answer.after (p.loading job images) s) now').steps ∧
      calls (p.cleanup.course answer (answer.after (p.loading job images) s) now').steps ⊆
        calls ((p.fill job images).course answer s now).steps := by
  rw [fill_calls] at h ⊢
  rw [List.mem_cons] at h
  rcases h with heq | h
  · injection heq with _ _ heq
    exact absurd heq (hrequest _)
  · cases hloaded : answer.reply (p.loading job images) s with
    | ok names =>
        rw [hloaded] at h
        simp only [List.mem_cons, reduceCtorEq, false_or] at h ⊢
        exact ⟨_, mem_of_mem_calls h,
          fun step hstep => List.mem_cons_of_mem _ (List.mem_cons_of_mem _ hstep)⟩
    | error f =>
        rw [hloaded] at h
        by_cases hf : f.isAnswer = true ∨ f.kind = .own .workloadCreate
        · simp only [if_pos hf] at h ⊢
          exact ⟨_, mem_of_mem_calls h, fun step hstep => List.mem_cons_of_mem _ hstep⟩
        · simp only [if_neg hf] at h
          cases h

/-- Of what is asked for a job, all but its namespace and its workload belongs to
one sweep. -/
theorem preloadImages_sweeps {p : PreLoader τ} {job : Job τ} {s found : σ} {now t : τ}
    {request : Request} {reply : Reply}
    (h : .asked found t request reply ∈ ((p.preloadImages job).course answer s now).steps)
    (hrequest : ∀ manifest,
      request ≠ .createNamespace manifest ∧ request ≠ .createWorkload manifest) :
    ∃ s' now', .asked found t request reply ∈ (p.cleanup.course answer s' now').steps ∧
      ∀ step ∈ calls (p.cleanup.course answer s' now').steps,
        step ∈ ((p.preloadImages job).course answer s now).steps := by
  rw [← asked_mem_calls] at h
  cases p.preloadImages_went job answer s now with
  | unread extracted plain hc | nothing extracted plain hc =>
      rw [hc, plain.calls_eq] at h
      cases h
  | refused extracted foundSome hcreated plain hc =>
      rw [hc, plain.calls_eq, List.mem_singleton] at h
      injection h with _ _ heq
      exact absurd heq (hrequest _).1
  | created extracted foundSome hcreated plain hc =>
      rw [hc, plain.calls_precede, List.mem_cons] at h
      rcases h with heq | hmem
      · injection heq with _ _ heq
        exact absurd heq (hrequest _).1
      · obtain ⟨now', hsweep, hsub⟩ := fill_sweeps hmem fun manifest => (hrequest manifest).2
        refine ⟨_, now', hsweep, fun step hstep => ?_⟩
        rw [hc]
        exact List.mem_append_right _ (mem_of_mem_calls (hsub hstep))

/-- What is deleted for a job carried the marker when a listing of its found it,
and does so still if it is there. -/
theorem preloadImages_deletes (law : answer.Keeps view) {p : PreLoader τ}
    (hp : p.sweep.selector = some markerSelector) {job : Job τ} {s found : σ} {now t : τ}
    {name : String} {reply : Reply}
    (h : .asked found t (.delete name) reply ∈
      ((p.preloadImages job).course answer s now).steps) :
    (∀ ns, view found name = some ns → ns.Marked) ∧
      ∃ found' t' names,
        .asked found' t' (.list (some markerSelector)) (.ok names) ∈
          ((p.preloadImages job).course answer s now).steps ∧
        name ∈ names ∧ ∃ ns, view found' name = some ns ∧ ns.Marked := by
  obtain ⟨s', now', hsweep, hsub⟩ := preloadImages_sweeps h
    fun manifest => ⟨Request.noConfusion, Request.noConfusion⟩
  rcases Sweep.run_requests hsweep with heq | ⟨names, hlisted, name', hname, heq⟩
  · cases heq
  · injection heq with heq
    subst heq
    rw [hp] at hlisted
    obtain ⟨ns, hns, hfinds⟩ := (law.listed hlisted).1 name hname
    have hmarked : ns.Marked := finds_marker_iff.1 hfinds
    refine ⟨fun ns' hns' => ?_, s', now', names, ?_, hname, ns, hns, hmarked⟩
    · exact ((p.sweep.run_within law s' now').2 _ _ _ _ hsweep).marked hns hns' hmarked
    · have hlists := p.sweep.run_lists answer s' now'
      rw [hp, hlisted] at hlists
      exact hsub _ (asked_mem_calls.2 hlists)

/-- A namespace that was filled and well was swept and well. -/
theorem fill_ok {p : PreLoader τ} {job : Job τ} {images : List String} {s : σ} {now : τ}
    (h : ((p.fill job images).course answer s now).outcome = some (.ok ())) :
    ∃ now' swept,
      (p.cleanup.course answer (answer.after (p.loading job images) s) now').outcome =
        some (.ok swept) ∧
      ((p.fill job images).course answer s now).state =
        (p.cleanup.course answer (answer.after (p.loading job images) s) now').state ∧
      ∀ step ∈ (p.cleanup.course answer (answer.after (p.loading job images) s) now').steps,
        step ∈ ((p.fill job images).course answer s now).steps := by
  cases hloaded : answer.reply (p.loading job images) s with
  | error f =>
      obtain ⟨steps, -, hcourse⟩ := p.fill_failed job images hloaded now
      rw [hcourse] at h
      exact absurd h (p.setback_ne_ok _ answer _ _)
  | ok names =>
      obtain ⟨steps, -, hcourse⟩ := p.fill_loaded job images hloaded now
      simp only [Program.course_bind, Program.course_succeed, Course.bind_result] at hcourse
      rw [hcourse] at h ⊢
      obtain ⟨swept, hswept⟩ := Course.eq_ok_of_map h
      exact ⟨_, swept, hswept, rfl, fun step hstep => List.mem_append_right _ hstep⟩

/-- Of a job that created its namespace and ended well nothing is left, nor of
anything else that was marked when it listed. -/
theorem preloadImages_clears (law : answer.Keeps view) {p : PreLoader τ}
    (hp : p.sweep.selector = some markerSelector) {job : Job τ} {s : σ} {now : τ}
    (hok : ((p.preloadImages job).course answer s now).outcome = some (.ok ()))
    (hcreated : ∃ found t manifest names, .asked found t (.createNamespace manifest) (.ok names) ∈
      ((p.preloadImages job).course answer s now).steps) :
    view ((p.preloadImages job).course answer s now).state p.staging = none ∧
      (∃ found t reply, .asked found t (.list (some markerSelector)) reply ∈
        ((p.preloadImages job).course answer s now).steps) ∧
      ∀ found t reply, .asked found t (.list (some markerSelector)) reply ∈
          ((p.preloadImages job).course answer s now).steps →
        ∀ name ns, view found name = some ns → ns.Marked →
          view ((p.preloadImages job).course answer s now).state name = none := by
  obtain ⟨found, t, manifest, names, hmem⟩ := hcreated
  rw [← asked_mem_calls] at hmem
  cases p.preloadImages_went job answer s now with
  | unread extracted plain hc | nothing extracted plain hc =>
      rw [hc, plain.calls_eq] at hmem
      cases hmem
  | refused extracted foundSome hcreated plain hc =>
      rw [hc] at hok
      cases hok
  | @created images _ steps extracted foundSome hanswered plain hc =>
      rw [hc, Course.precede_outcome] at hok
      obtain ⟨now', swept, hswept, hstate, hsteps⟩ := fill_ok hok
      rw [hc, Course.precede_state, hstate]
      have hloading : Within (view (answer.after (p.creation job) s))
          (view (answer.after (p.loading job images) (answer.after (p.creation job) s))) :=
        law.within (fun _ heq => by cases heq) _
      refine ⟨?_, ?_, ?_⟩
      · cases hstaging : view (answer.after (p.loading job images)
            (answer.after (p.creation job) s)) p.staging with
        | none => exact (p.sweep.run_within law _ now').1.eq_none hstaging
        | some ns =>
            -- it is the one that was created, for nobody else adds any
            obtain ⟨ns₀, hns₀, hlabels⟩ := hloading _ _ hstaging
            have hmarked : ns.Marked := by
              rw [Namespace.Marked, ← hlabels,
                law.created (stagingManifest_name ..) hanswered hns₀, stagingManifest_labels]
              exact markedLabels_get? job.labels
            exact Sweep.run_clears law hp hswept hstaging hmarked
      · have hlists := p.sweep.run_lists answer
          (answer.after (p.loading job images) (answer.after (p.creation job) s)) now'
        rw [hp] at hlists
        exact ⟨_, _, _, List.mem_append_right _ (hsteps _ hlists)⟩
      · intro found t reply hlisted name ns hns hmarked
        rw [← asked_mem_calls, plain.calls_precede, List.mem_cons] at hlisted
        rcases hlisted with heq | hlisted
        · injection heq with _ _ hrequest
          cases hrequest
        · obtain ⟨now'', hsweep, -⟩ := fill_sweeps hlisted fun manifest => Request.noConfusion
          obtain ⟨ns₀, hns₀, hlabels⟩ :=
            (p.sweep.run_within law _ now'').2 _ _ _ _ hsweep name ns hns
          refine Sweep.run_clears law hp hswept hns₀ ?_
          rw [Namespace.Marked, hlabels]
          exact hmarked

/-- A job that ends well leaves no staging namespace unless there was one. -/
theorem preloadImages_absent (law : answer.Keeps view) {p : PreLoader τ}
    (hp : p.sweep.selector = some markerSelector) {job : Job τ} {s : σ} {now : τ}
    (hok : ((p.preloadImages job).course answer s now).outcome = some (.ok ()))
    (habsent : view s p.staging = none) :
    view ((p.preloadImages job).course answer s now).state p.staging = none := by
  cases p.preloadImages_went job answer s now with
  | unread extracted plain hc | refused extracted foundSome hcreated plain hc =>
      rw [hc] at hok
      cases hok
  | nothing extracted plain hc =>
      rw [hc]
      exact habsent
  | @created images names steps extracted foundSome hcreated plain hc =>
      have hmem : .asked s now (p.creation job) (.ok names) ∈
          ((p.preloadImages job).course answer s now).steps := by
        rw [← asked_mem_calls, hc, plain.calls_precede]
        exact List.mem_cons_self
      exact (preloadImages_clears law hp hok ⟨s, now, _, names, hmem⟩).1

/-- No job of several meets a staging namespace that was not there before the
first. -/
theorem preloadJobs_absent (law : answer.Keeps view) {p : PreLoader τ}
    (hp : p.sweep.selector = some markerSelector) (jobs : List (Job τ)) {s found : σ} {now t : τ}
    {manifest : Value} {reply : Reply} (habsent : view s p.staging = none)
    (h : .asked found t (.createNamespace manifest) reply ∈
      ((p.preloadJobs jobs).course answer s now).steps) :
    view found p.staging = none := by
  induction jobs generalizing s now with
  | nil => cases h
  | cons job jobs ih =>
      rw [preloadJobs] at h
      split at h
      · rw [Program.course_bind] at h
        cases hout : ((p.preloadImages job).course answer s now).outcome with
        | none =>
            rw [Course.bind_of_none hout] at h
            rw [created_at_start h]
            exact habsent
        | some result =>
            cases result with
            | error e =>
                rw [Course.bind_of_error hout] at h
                rw [created_at_start h]
                exact habsent
            | ok _ =>
                rw [Course.bind_of_ok hout, Course.precede_steps, List.mem_append] at h
                rcases h with h | h
                · rw [created_at_start h]
                  exact habsent
                · exact ih (preloadImages_absent law hp hout habsent) h
      · rw [Program.course, Course.precede_steps, List.mem_append] at h
        rcases h with h | h
        · cases List.mem_singleton.1 h
        · exact ih habsent h

/-- Staging namespaces go away and nothing else does, on every cluster and however
long namespaces take to fade. A job that created its namespace and ends well has
listed, and leaves neither that nor anything that was marked when it did. Whatever it
deletes carried the marker when it was listed, and does so still if it is there.
Of several jobs, none meets a staging namespace when it creates its own, unless
there was one before the first. -/
theorem staging_goes_away (p : PreLoader τ) (hp : p.sweep.selector = some markerSelector)
    (answer : Answerer σ τ) (view : σ → Namespaces) (law : answer.Keeps view) (s : σ) (now : τ) :
    (∀ job : Job τ,
      let c := (p.preloadImages job).course answer s now
      (c.outcome = some (.ok ()) →
        (∃ found t manifest names,
          .asked found t (.createNamespace manifest) (.ok names) ∈ c.steps) →
        view c.state p.staging = none ∧
          (∃ found t reply, .asked found t (.list (some markerSelector)) reply ∈ c.steps) ∧
          ∀ found t reply, .asked found t (.list (some markerSelector)) reply ∈ c.steps →
            ∀ name ns, view found name = some ns → ns.Marked → view c.state name = none) ∧
      ∀ found t name reply, .asked found t (.delete name) reply ∈ c.steps →
        (∀ ns, view found name = some ns → ns.Marked) ∧
          ∃ found' t' names,
            .asked found' t' (.list (some markerSelector)) (.ok names) ∈ c.steps ∧
            name ∈ names ∧ ∃ ns, view found' name = some ns ∧ ns.Marked) ∧
    ∀ jobs : List (Job τ), view s p.staging = none →
      ∀ found t manifest reply, .asked found t (.createNamespace manifest) reply ∈
          ((p.preloadJobs jobs).course answer s now).steps →
        view found p.staging = none := by
  refine ⟨fun job => ⟨?_, ?_⟩, ?_⟩
  · intro hok hcreated
    exact preloadImages_clears law hp hok hcreated
  · intro found t name reply hdelete
    exact preloadImages_deletes law hp hdelete
  · intro jobs habsent found t manifest reply hcreate
    exact preloadJobs_absent law hp jobs habsent hcreate

end PreLoader

end

/-! ## A cluster -/

/-- Namespaces with the names that there may be. -/
structure Registry where
  names : List String
  get : Namespaces
  known : ∀ name, get name ≠ none → name ∈ names

namespace Registry

/-- Sets a namespace. -/
def set (r : Registry) (name : String) (ns : Namespace) : Registry where
  names := name :: r.names
  get := Function.update r.get name (some ns)
  known other h := by
    by_cases hother : other = name
    · exact hother ▸ List.mem_cons_self
    · rw [Function.update_of_ne hother] at h
      exact List.mem_cons_of_mem _ (r.known other h)

/-- Drops the namespaces that are to be deleted. -/
def settle (r : Registry) : Registry where
  names := r.names
  get name := (r.get name).filter fun ns => !ns.deleting
  known name h := r.known name fun hnone => h (by rw [hnone]; rfl)

/-- The namespaces that a selector finds. -/
def find (r : Registry) (selector : Selector) : List String :=
  r.names.filter fun name => (r.get name).any fun ns => selector.finds ns.labels

/-- A cluster whose namespaces fade after the next listing. -/
def answer : Answerer Registry ℚ := fun request r =>
  match request with
  | .createNamespace manifest =>
    match manifestName? manifest with
    | none => (some 1, .error ⟨.httpStatus, some 422, "no name"⟩, r)
    | some name =>
      match r.get name with
      | some _ => (some 1, .error ⟨.httpStatus, some 409, "name is taken"⟩, r)
      | none => (some 1, .ok [], r.set name ⟨manifestLabels manifest, false⟩)
  | .createWorkload _ => (some 1, .ok [], r)
  | .list selector => (some 1, .ok (r.find selector), r.settle)
  | .delete name =>
    match r.get name with
    | none => (some 1, .error ⟨.httpStatus, some 404, "no such namespace"⟩, r)
    | some ns => (some 1, .ok [], r.set name { ns with deleting := true })

theorem mem_find {r : Registry} {selector : Selector} {name : String} :
    name ∈ r.find selector ↔
      ∃ ns, r.get name = some ns ∧ selector.finds ns.labels = true := by
  rw [find, List.mem_filter, Option.any_eq_true]
  constructor
  · rintro ⟨-, ns, hns, hfinds⟩
    exact ⟨ns, hns, hfinds⟩
  · rintro ⟨ns, hns, hfinds⟩
    exact ⟨r.known name (by rw [hns]; exact Option.some_ne_none ns), ns, hns, hfinds⟩

theorem settle_fades (r : Registry) : Fades r.get r.settle.get := by
  intro name
  show (r.get name).filter _ = r.get name ∨ (r.get name).filter _ = none ∧ _
  cases r.get name with
  | none => exact Or.inl rfl
  | some ns =>
      cases hdeleting : ns.deleting with
      | false => exact Or.inl (by simp [hdeleting])
      | true => exact Or.inr ⟨by simp [hdeleting], ns, rfl, hdeleting⟩

theorem keeps : answer.Keeps get := by
  intro request r
  unfold Answerer.reply Answerer.after
  cases request with
  | createNamespace manifest =>
      rw [answer]
      cases hname : manifestName? manifest with
      | none => exact ⟨_, _, .refl _, .failed .., .refl _⟩
      | some name =>
          dsimp only
          cases hfree : r.get name with
          | some ns => exact ⟨_, _, .refl _, .failed .., .refl _⟩
          | none => exact ⟨_, _, .refl _, .created [] hname hfree, .refl _⟩
  | createWorkload manifest => exact ⟨_, _, .refl _, .loaded .., .refl _⟩
  | list selector =>
      exact ⟨_, _, .refl _, .listed fun _ => mem_find, r.settle_fades⟩
  | delete name =>
      rw [answer]
      cases hpresent : r.get name with
      | none => exact ⟨_, _, .refl _, .failed .., .refl _⟩
      | some ns => exact ⟨_, _, .refl _, .deleted [] hpresent, .refl _⟩

end Registry

/-- A cluster with a marked namespace that nobody swept, and one without a marker. -/
def litteredRegistry : Registry :=
  (Registry.set (Registry.set ⟨[], fun _ => none, fun _ h => absurd rfl h⟩
    "left" ⟨markedLabels [], false⟩) "kept" ⟨[], false⟩)

theorem staging_goes_away_littered :
    let c := (podLoader.preloadImages podJob).course Registry.answer litteredRegistry 0
    podLoader.sweep.selector = some markerSelector ∧ Answerer.Keeps Registry.answer Registry.get ∧
      c.outcome = some (.ok ()) ∧
      (∃ found t manifest names,
        .asked found t (.createNamespace manifest) (.ok names) ∈ c.steps) ∧
      c.state.get podLoader.staging = none ∧
      (∃ found t reply, .asked found t (.list (some markerSelector)) reply ∈ c.steps) ∧
      (∀ found t reply, .asked found t (.list (some markerSelector)) reply ∈ c.steps →
        ∀ name ns, found.get name = some ns → ns.Marked → c.state.get name = none) ∧
      litteredRegistry.get podLoader.staging = none ∧
      ∀ found t manifest reply, .asked found t (.createNamespace manifest) reply ∈
          ((podLoader.preloadJobs [podJob, podJob]).course Registry.answer litteredRegistry
            0).steps →
        found.get podLoader.staging = none := by
  have hok : ((podLoader.preloadImages podJob).course Registry.answer litteredRegistry
      0).outcome = some (.ok ()) := eq_ok_of_toOption (by decide +kernel)
  have hcreated : ∃ found t manifest names,
      .asked found t (.createNamespace manifest) (.ok names) ∈
        ((podLoader.preloadImages podJob).course Registry.answer litteredRegistry 0).steps :=
    exists_creation (by decide +kernel)
  have habsent : litteredRegistry.get podLoader.staging = none :=
    Option.isNone_iff_eq_none.1 (by decide +kernel)
  have haway := PreLoader.staging_goes_away podLoader rfl Registry.answer Registry.get
    Registry.keeps litteredRegistry 0
  have hgone := (haway.1 podJob).1 hok hcreated
  exact ⟨rfl, Registry.keeps, hok, hcreated, hgone.1, hgone.2.1, hgone.2.2, habsent, haway.2 _ habsent⟩

end ImagePreload
