import ImagePreload.Proofs.PathTemplates

/-!
# Tokens of templates of paths

The scanner has fuel and puts the tokens it finds behind those that it has found before.
What it finds from some place on depends on neither, as long as there is fuel for every
character: inside of a tag (`Reads`), behind a tag (`Scans`), and where a text ends whose
characters are still kept aside (`Continues`). So the tokens of a template are those of its
parts behind each other, and they are put together from the end of the template to its
beginning (`PathTemplate.scans`).

All line ends become line feeds before anything is scanned. There are none in a tag, and a
text that no tag begins in has none begin in it afterwards (`isTagless_unifyLineEnds`), so
that comes to the same as unifying the texts alone.
-/

namespace ImagePreload.Template

/-! ## Characters of names -/

/-- A text behind a name does not go on with it. -/
def Parted (cs : List Char) : Prop :=
  ∀ c ∈ cs.head?, (Text.isWordChar c || Text.isIdentifierPart c) = false

/-- A text that does not begin with a blank. -/
def Unblank (cs : List Char) : Prop := ∀ c ∈ cs.head?, Text.isBlank c = false

/-- No mark is a part of a name. -/
theorem ne_of_isIdentifierPart {c : Char} (h : Text.isIdentifierPart c = true) {mark : Char}
    (hmark : Text.isIdentifierPart mark = false) : c ≠ mark := by
  rintro rfl
  rw [h] at hmark
  cases hmark

namespace IsName

variable {s : String}

theorem exists_cons (h : IsName s) : ∃ c cs, s.toList = c :: cs ∧ Text.isIdentifierPart c = true ∧
    Text.isBlank c = false ∧ Text.digitValue? c = none := by
  have hidentifier := h.identifier
  have hfirst := h.first
  cases hs : s.toList with
  | nil =>
      rw [hs] at hidentifier
      cases hidentifier
  | cons c cs =>
      rw [hs, List.head?_cons, Option.all_some, beginsName, Bool.and_eq_true, Bool.and_eq_true,
        Bool.not_eq_true', Option.isNone_iff_eq_none] at hfirst
      exact ⟨c, cs, rfl, hfirst.1.1, hfirst.1.2, hfirst.2⟩

theorem parts (h : IsName s) : ∀ c ∈ s.toList, Text.isIdentifierPart c = true := by
  have hidentifier := h.identifier
  obtain ⟨c, cs, hcons, hpart, -⟩ := h.exists_cons
  rw [hcons, Text.isIdentifier, Bool.and_eq_true] at hidentifier
  rw [hcons]
  exact List.forall_mem_cons.2 ⟨hpart, List.all_eq_true.1 hidentifier.2⟩

theorem unblank (h : IsName s) (cs : List Char) : Unblank (s.toList ++ cs) := by
  obtain ⟨c, w, hcons, -, hblank, -⟩ := h.exists_cons
  rw [hcons]
  rintro d hd
  cases hd
  exact hblank

theorem takeWhile_append (h : IsName s) {cs : List Char} (parted : Parted cs) :
    (s.toList ++ cs).takeWhile (fun d => Text.isWordChar d || Text.isIdentifierPart d) = s.toList ∧
      (s.toList ++ cs).dropWhile (fun d => Text.isWordChar d || Text.isIdentifierPart d) = cs := by
  have hname : ∀ c ∈ s.toList, (Text.isWordChar c || Text.isIdentifierPart c) = true := fun c hc => by
    rw [h.parts c hc, Bool.or_true]
  rw [List.takeWhile_append_of_pos hname, List.dropWhile_append_of_pos hname]
  cases cs with
  | nil => exact ⟨List.append_nil _, rfl⟩
  | cons c cs =>
      have hc : (Text.isWordChar c || Text.isIdentifierPart c) = false := parted c rfl
      rw [List.takeWhile_cons_of_neg (by simp [hc]), List.dropWhile_cons_of_neg (by simp [hc])]
      exact ⟨List.append_nil _, rfl⟩

end IsName

/-! ## Tags -/

/-- How a tag is read from here on: these tokens come next and this text is left behind the tag. A
point may have come before. -/
def Reads (kind : TagKind) (dotted : Bool) (cs : List Char) (tokens : List Token)
    (rest : List Char) : Prop :=
  ∀ (fuel : Nat) (done : Array Token), cs.length < fuel →
    scanTag kind fuel cs [] dotted done = .ok (done ++ tokens, rest)

namespace Reads

variable {kind : TagKind} {dotted : Bool} {cs rest : List Char} {tokens : List Token}

theorem close (kind : TagKind) (rest : List Char) : Reads kind false (kind.close ++ rest) [] rest := by
  intro fuel done hfuel
  cases fuel with
  | zero => omega
  | succ fuel =>
      have hend : kind.dropEnd? (kind.close ++ rest) = some rest := by
        cases kind <;> rfl
      rw [scanTag.eq_def]
      simp [hend]

theorem blank (unblank : Unblank cs) (h : Reads kind false cs tokens rest) :
    Reads kind false (' ' :: cs) tokens rest := by
  intro fuel done hfuel
  cases fuel with
  | zero => omega
  | succ fuel =>
      have hend : kind.dropEnd? (' ' :: cs) = none := by
        cases kind <;> rfl
      have hdrop : Text.dropBlanks cs = cs := by
        cases cs with
        | nil => rfl
        | cons c cs => exact List.dropWhile_cons_of_neg (by simp [unblank c rfl])
      have hblank : Text.isBlank ' ' = true := by decide
      rw [scanTag.eq_def]
      simp only [List.isEmpty_nil, if_true, hend, hblank, hdrop]
      exact h fuel done (by simpa using hfuel)

theorem word {s : String} (hs : IsName s) (parted : Parted cs) (h : Reads kind false cs tokens rest)
    (dotted : Bool) : Reads kind dotted (s.toList ++ cs) (.name s :: tokens) rest := by
  intro fuel done hfuel
  have hidentifier := hs.identifier
  obtain ⟨htake, hdrop⟩ := hs.takeWhile_append parted
  obtain ⟨c, w, hcons, hpart, hblank, hdigit⟩ := hs.exists_cons
  have hend : kind.dropEnd? (c :: (w ++ cs)) = none := by
    have hne (mark : Char) (hmark : Text.isIdentifierPart mark = false) : c ≠ mark :=
      ne_of_isIdentifierPart hpart hmark
    have hminus := hne '-' (by decide)
    have hplus := hne '+' (by decide)
    have hpercent := hne '%' (by decide)
    have hbrace := hne '\x7d' (by decide)
    cases kind <;>
      simp [TagKind.dropEnd?, TagKind.close, Text.dropPart?, hminus, hplus, hpercent.symm,
        hbrace.symm]
  rw [hcons, List.cons_append] at htake hdrop hfuel
  cases fuel with
  | zero => omega
  | succ fuel =>
      have hnext := h fuel (done.push (.name s)) (by simp at hfuel; omega)
      have hfloat : (if dotted = true then none else takeFloat (c :: (w ++ cs))) = none := by
        cases dotted with
        | true => rfl
        | false => exact takeFloat_of_no_digit hdigit _
      have hword : (Text.isWordChar c || Text.isIdentifierPart c) = true := by
        rw [hpart, Bool.or_true]
      have hname : String.ofList (c :: w) = s := by rw [← hcons, String.ofList_toList]
      rw [hcons] at hidentifier
      rw [hcons, List.cons_append, scanTag.eq_def]
      simp only [List.isEmpty_nil, if_true, hend, hblank, hfloat, takeInt_of_no_digit hdigit, hword,
        htake, hdrop, hidentifier, hname, hnext, Bool.false_eq_true, if_false]
      simp

/-- A point and the name behind it. -/
theorem step {s : String} (hs : IsName s) (parted : Parted cs)
    (h : Reads kind false cs tokens rest) :
    Reads kind false ('.' :: (s.toList ++ cs)) (.op "." :: .name s :: tokens) rest := by
  intro fuel done hfuel
  cases fuel with
  | zero => omega
  | succ fuel =>
      have hnext := word hs parted h true fuel (done.push (.op ".")) (by simpa using hfuel)
      have hend : kind.dropEnd? ('.' :: (s.toList ++ cs)) = none := by
        cases kind <;> rfl
      have hblank : Text.isBlank '.' = false := by decide
      have hdigit : Text.digitValue? '.' = none := by decide
      have hword : (Text.isWordChar '.' || Text.isIdentifierPart '.') = false := by decide
      have hop : (operators.find? fun op => (Text.dropPart? op ('.' :: (s.toList ++ cs))).isSome) =
          some ['.'] := rfl
      rw [scanTag.eq_def]
      simp only [List.isEmpty_nil, if_true, hend, hblank, takeFloat_of_no_digit hdigit,
        takeInt_of_no_digit hdigit, hword, hop, Bool.false_eq_true, if_false]
      have htokens : done ++ Token.op "." :: Token.name s :: tokens =
          done.push (.op ".") ++ Token.name s :: tokens := by simp
      rw [htokens]
      exact hnext

end Reads

/-! ## Paths in tags -/

namespace Path

/-- The tokens of the steps of a path. -/
def stepTokens (steps : List String) : List Token := steps.flatMap fun s => [.op ".", .name s]

def tokens (p : Path) : List Token := .name p.root :: stepTokens p.steps

/-- The characters of a path with a text behind it. -/
def charsBefore (steps : List String) (cs : List Char) : List Char :=
  steps.foldr (fun s cs => '.' :: (s.toList ++ cs)) cs

end Path

theorem parted_steps {steps : List String} {cs : List Char} (parted : Parted cs) :
    Parted (Path.charsBefore steps cs) := by
  cases steps with
  | nil => exact parted
  | cons s steps =>
      rintro c hc
      cases hc
      decide

theorem Reads.steps {kind : TagKind} {cs rest : List Char} {tokens : List Token}
    {steps : List String} (names : ∀ s ∈ steps, IsName s) (parted : Parted cs)
    (h : Reads kind false cs tokens rest) :
    Reads kind false (Path.charsBefore steps cs) (Path.stepTokens steps ++ tokens) rest := by
  induction steps with
  | nil => exact h
  | cons s steps ih =>
      obtain ⟨hs, hsteps⟩ := List.forall_mem_cons.1 names
      exact .step hs (parted_steps parted) (ih hsteps)

theorem Path.source_toList (p : Path) (cs : List Char) :
    p.source.toList ++ cs = p.root.toList ++ Path.charsBefore p.steps cs := by
  rw [Path.source, String.toList_append, List.append_assoc]
  congr 1
  induction p.steps with
  | nil => simp [Path.charsBefore]
  | cons s steps ih =>
      rw [Path.charsBefore, List.foldr_cons, ← Path.charsBefore, ← ih]
      simp

theorem Reads.path {kind : TagKind} {cs rest : List Char} {tokens : List Token} {p : Path}
    (wellFormed : p.WellFormed) (parted : Parted cs) (h : Reads kind false cs tokens rest) :
    Reads kind false (p.source.toList ++ cs) (p.tokens ++ tokens) rest := by
  rw [Path.source_toList]
  exact .word wellFormed.name (parted_steps parted) (.steps wellFormed.names parted h) false

/-! ## Texts -/

theorem opening?_of_tagless {c : Char} {text cs : List Char}
    (tagless : isTagless (c :: (text ++ cs.take 1)) = true) : opening? (c :: (text ++ cs)) = none := by
  have hpair {d : Char} {rest more : List Char} (h : isTagless (c :: d :: rest) = true) :
      opening? (c :: d :: more) = none := by
    unfold opening?
    split
    · next heq =>
        cases heq
        rw [isTagless, Bool.and_eq_true, Bool.not_eq_true', Bool.or_eq_false_iff,
          Bool.or_eq_false_iff] at h
        obtain ⟨⟨⟨hbrace, hpercent⟩, hcomment⟩, -⟩ := h
        simp only [hpercent, hbrace, hcomment, Bool.false_eq_true, if_false]
    · rfl
  cases text with
  | cons d text => exact hpair tagless
  | nil =>
      cases cs with
      | cons d cs => exact hpair tagless
      | nil =>
          unfold opening?
          split
          · next heq => cases heq
          · rfl

/-- Characters of a text are put aside one after the other. -/
theorem scanText_append {text cs : List Char} (tagless : isTagless (text ++ cs.take 1) = true)
    (fuel : Nat) (before : List Char) (done : Array Token) :
    scanText (fuel + text.length) before (text ++ cs) done =
      scanText fuel (text.reverse ++ before) cs done := by
  induction text generalizing before with
  | nil => rfl
  | cons c text ih =>
      rw [List.length_cons, ← Nat.add_assoc, scanText.eq_def]
      simp only [List.cons_append, opening?_of_tagless tagless]
      rw [ih (isTagless_of_cons tagless), List.reverse_cons, List.append_assoc]
      rfl

/-- The tokens of a text; there are none if it is empty. -/
def textTokens (text : List Char) : List Token :=
  if text.isEmpty then [] else [.data (.ofList text)]

theorem pushData_eq (done : Array Token) (text : List Char) :
    pushData done text = done ++ textTokens text := by
  rw [pushData, textTokens]
  split <;> simp

/-- How a template is read from the beginning or from behind a tag. -/
def Scans (cs : List Char) (tokens : List Token) : Prop :=
  ∀ (fuel : Nat) (done : Array Token), cs.length < fuel →
    scanText fuel [] cs done = .ok (done ++ tokens)

/-- How a template is read from where a text ends. -/
def Continues (cs : List Char) (tokens : List Token) : Prop :=
  ∀ (fuel : Nat) (before : List Char) (done : Array Token), cs.length < fuel →
    scanText fuel before cs done = .ok (pushData done before.reverse ++ tokens)

theorem Continues.nil : Continues [] [] := by
  intro fuel before done hfuel
  cases fuel with
  | zero => omega
  | succ fuel =>
      rw [scanText.eq_def]
      simp

theorem Scans.text {text cs : List Char} {tokens : List Token}
    (tagless : isTagless (text ++ cs.take 1) = true) (h : Continues cs tokens) :
    Scans (text ++ cs) (textTokens text ++ tokens) := by
  intro fuel done hfuel
  rw [List.length_append] at hfuel
  obtain ⟨more, rfl⟩ := Nat.exists_eq_add_of_le (Nat.le_of_lt hfuel)
  rw [show text.length + cs.length + more = cs.length + more + text.length by omega,
    scanText_append tagless, h _ _ _ (by omega), List.append_nil, List.reverse_reverse, pushData_eq]
  exact congrArg Except.ok (Array.toList_inj.1 (by simp))

theorem push_append_push (done : Array Token) (first last : Token) (tokens more : List Token) :
    (done.push first ++ tokens).push last ++ more = done ++ first :: (tokens ++ last :: more) := by
  apply Array.toList_inj.1
  simp

/-- What a tag begins with, and the tokens around those in it. -/
def TagKind.opening : TagKind → Opening
  | .output => .output
  | .statement => .statement

def TagKind.first : TagKind → Token
  | .output => .outputStart
  | .statement => .tagStart

def TagKind.last : TagKind → Token
  | .output => .outputEnd
  | .statement => .tagEnd

theorem Continues.tag (kind : TagKind) {cs after rest : List Char} {tokens more : List Token}
    (opens : opening? cs = some (kind.opening, none, after))
    (reads : Reads kind false after tokens rest) (shorter : rest.length < cs.length)
    (h : Scans rest more) : Continues cs (kind.first :: (tokens ++ kind.last :: more)) := by
  intro fuel before done hfuel
  cases fuel with
  | zero => omega
  | succ fuel =>
      cases cs with
      | nil => cases opens
      | cons c cs =>
          have hsign : ((none : Option Char) == some '-') = false := rfl
          have hreads := reads (after.length + 2) ((pushData done before.reverse).push kind.first)
            (by omega)
          have hrest : scanText (fuel + 1) before (c :: cs) done =
              scanText fuel [] rest
                (((pushData done before.reverse).push kind.first ++ tokens).push kind.last) := by
            rw [scanText.eq_def]
            cases kind <;>
              simp only [opens, TagKind.opening, hsign, Bool.false_eq_true, if_false] <;>
              exact congrArg (· >>= _) hreads
          rw [hrest, h fuel _ (by omega), push_append_push]

/-! ## Line ends -/

theorem unifyLineEnds_cons {c : Char} (h : c ≠ '\r') (cs : List Char) :
    Text.unifyLineEnds (c :: cs) = c :: Text.unifyLineEnds cs := by
  rw [Text.unifyLineEnds]
  · rintro ds rfl
    exact (h rfl).elim
  · exact h

theorem unifyLineEnds_append_of_notMem {text : List Char} (h : '\r' ∉ text) (cs : List Char) :
    Text.unifyLineEnds (text ++ cs) = text ++ Text.unifyLineEnds cs := by
  induction text with
  | nil => rfl
  | cons c text ih =>
      rw [List.mem_cons, not_or] at h
      rw [List.cons_append, unifyLineEnds_cons (Ne.symm h.1), ih h.2, List.cons_append]

/-- A text is unified by itself unless a line end may go on behind it. -/
theorem unifyLineEnds_append (text : List Char) {cs : List Char} (h : cs.head? ≠ some '\n') :
    Text.unifyLineEnds (text ++ cs) = Text.unifyLineEnds text ++ Text.unifyLineEnds cs := by
  fun_induction Text.unifyLineEnds text with
  | case1 => rfl
  | case2 text ih =>
      rw [List.cons_append, List.cons_append, Text.unifyLineEnds, ih, List.cons_append]
  | case3 text hne ih =>
      rw [List.cons_append, Text.unifyLineEnds, ih, List.cons_append]
      rintro ds hds
      cases text with
      | nil => exact h (by rw [← List.nil_append cs, hds]; rfl)
      | cons c text =>
          cases hds
          exact hne _ rfl
  | case4 c text _ hne ih =>
      rw [List.cons_append, unifyLineEnds_cons hne, ih, List.cons_append]

theorem unifyLineEnds_return (text : List Char) :
    ∃ rest, Text.unifyLineEnds ('\r' :: text) = '\n' :: rest := by
  unfold Text.unifyLineEnds
  split
  · next heq => cases heq
  · exact ⟨_, rfl⟩
  · exact ⟨_, rfl⟩
  · next hne heq =>
      cases heq
      exact absurd rfl hne

theorem isTagless_unifyLineEnds {text next : List Char} (h : isTagless (text ++ next) = true) :
    isTagless (Text.unifyLineEnds text ++ next) = true := by
  fun_induction Text.unifyLineEnds text with
  | case1 => exact h
  | case2 text ih =>
      rw [List.cons_append, isTagless_cons_of_ne (by decide)]
      exact ih (isTagless_of_cons (isTagless_of_cons h))
  | case3 text hne ih =>
      rw [List.cons_append, isTagless_cons_of_ne (by decide)]
      exact ih (isTagless_of_cons h)
  | case4 c text _ hne ih =>
      have hrest := ih (isTagless_of_cons h)
      by_cases hc : c = '\x7b'
      · subst hc
        cases text with
        | nil => exact h
        | cons d text =>
            rw [List.cons_append, List.cons_append, isTagless_brace_cons] at h
            by_cases hd : d = '\r'
            · subst hd
              obtain ⟨rest, heq⟩ := unifyLineEnds_return text
              rw [heq] at hrest ⊢
              exact isTagless_brace_cons.2 ⟨by decide, hrest⟩
            · rw [unifyLineEnds_cons hd] at hrest ⊢
              exact isTagless_brace_cons.2 ⟨h.1, hrest⟩
      · rw [List.cons_append, isTagless_cons_of_ne hc]
        exact hrest

/-! ## Templates -/

theorem IsName.notMem_return {s : String} (h : IsName s) : '\r' ∉ s.toList :=
  fun mem => ne_of_isIdentifierPart (h.parts _ mem) (by decide) rfl

theorem Path.WellFormed.notMem_return {p : Path} (h : p.WellFormed) : '\r' ∉ p.source.toList := by
  have hsteps : ∀ steps : List String, (∀ s ∈ steps, IsName s) →
      '\r' ∉ Path.charsBefore steps [] := by
    intro steps names
    induction steps with
    | nil => exact List.not_mem_nil
    | cons s steps ih =>
        obtain ⟨hs, hsteps⟩ := List.forall_mem_cons.1 names
        rw [Path.charsBefore, List.foldr_cons, ← Path.charsBefore]
        simp [hs.notMem_return, ih hsteps]
  rw [← List.append_nil p.source.toList, Path.source_toList, List.mem_append, not_or]
  exact ⟨h.name.notMem_return, hsteps _ h.names⟩

namespace PathTemplate

/-- The characters of a template with unified line ends and a text behind it. -/
def charsBefore : PathTemplate → List Char → List Char
  | .text s, cs => Text.unifyLineEnds s.toList ++ cs
  | .output before p rest, cs =>
    Text.unifyLineEnds before.toList ++ ("\x7b\x7b ".toList ++ (p.source.toList ++
      (" \x7d\x7d".toList ++ rest.charsBefore cs)))
  | .cond before p yes no rest, cs =>
    Text.unifyLineEnds before.toList ++ ("\x7b% if ".toList ++ (p.source.toList ++
      (" %\x7d".toList ++ yes.charsBefore ("\x7b% else %\x7d".toList ++
        no.charsBefore ("\x7b% endif %\x7d".toList ++ rest.charsBefore cs)))))
  | .loop before x p body rest, cs =>
    Text.unifyLineEnds before.toList ++ ("\x7b% for ".toList ++ (x.toList ++ (" in ".toList ++
      (p.source.toList ++ (" %\x7d".toList ++
        body.charsBefore ("\x7b% endfor %\x7d".toList ++ rest.charsBefore cs))))))

theorem unifyLineEnds_source (t : PathTemplate) {behind : List Char} (h : t.WellFormed behind)
    {cs : List Char} (hcs : cs.head? ≠ some '\n') :
    Text.unifyLineEnds (t.source.toList ++ cs) = t.charsBefore (Text.unifyLineEnds cs) := by
  induction t generalizing behind cs with
  | text s => exact unifyLineEnds_append s.toList hcs
  | output before p rest ih =>
      obtain ⟨-, hp, hrest⟩ := h
      simp only [source, String.toList_append, List.append_assoc]
      rw [unifyLineEnds_append before.toList (by simp), unifyLineEnds_append_of_notMem (by decide),
        unifyLineEnds_append_of_notMem hp.notMem_return, unifyLineEnds_append_of_notMem (by decide),
        ih hrest hcs]
      rfl
  | cond before p yes no rest ihyes ihno ih =>
      obtain ⟨-, hp, hyes, hno, hrest⟩ := h
      simp only [source, String.toList_append, List.append_assoc]
      rw [unifyLineEnds_append before.toList (by simp), unifyLineEnds_append_of_notMem (by decide),
        unifyLineEnds_append_of_notMem hp.notMem_return, unifyLineEnds_append_of_notMem (by decide),
        ihyes hyes (by simp), unifyLineEnds_append_of_notMem (by decide), ihno hno (by simp),
        unifyLineEnds_append_of_notMem (by decide), ih hrest hcs]
      rfl
  | loop before x p body rest ihbody ih =>
      obtain ⟨-, hx, hp, hbody, hrest⟩ := h
      simp only [source, String.toList_append, List.append_assoc]
      rw [unifyLineEnds_append before.toList (by simp), unifyLineEnds_append_of_notMem (by decide),
        unifyLineEnds_append_of_notMem hx.name.notMem_return,
        unifyLineEnds_append_of_notMem (by decide),
        unifyLineEnds_append_of_notMem hp.notMem_return, unifyLineEnds_append_of_notMem (by decide),
        ihbody hbody (by simp), unifyLineEnds_append_of_notMem (by decide), ih hrest hcs]
      rfl

/-- The tokens of a template. -/
def tokens : PathTemplate → List Token
  | .text s => textTokens (Text.unifyLineEnds s.toList)
  | .output before p rest =>
    textTokens (Text.unifyLineEnds before.toList) ++
      .outputStart :: (p.tokens ++ .outputEnd :: rest.tokens)
  | .cond before p yes no rest =>
    textTokens (Text.unifyLineEnds before.toList) ++
      .tagStart :: .name "if" :: (p.tokens ++ .tagEnd :: (yes.tokens ++
        .tagStart :: .name "else" :: .tagEnd :: (no.tokens ++
          .tagStart :: .name "endif" :: .tagEnd :: rest.tokens)))
  | .loop before x p body rest =>
    textTokens (Text.unifyLineEnds before.toList) ++
      .tagStart :: .name "for" :: .name x :: .name "in" :: (p.tokens ++ .tagEnd :: (body.tokens ++
        .tagStart :: .name "endfor" :: .tagEnd :: rest.tokens))

theorem parted_blank (cs : List Char) : Parted (' ' :: cs) := by
  rintro c hc
  cases hc
  decide

theorem reads_close (kind : TagKind) (rest : List Char) :
    Reads kind false (' ' :: (kind.close ++ rest)) [] rest := by
  refine .blank ?_ (.close kind rest)
  rintro c hc
  cases kind <;> cases hc <;> decide

theorem reads_path {p : Path} (hp : p.WellFormed) (kind : TagKind) (rest : List Char) :
    Reads kind false (' ' :: (p.source.toList ++ ' ' :: (kind.close ++ rest))) p.tokens rest := by
  have hread := Reads.path hp (parted_blank _) (reads_close kind rest)
  rw [List.append_nil] at hread
  refine .blank ?_ hread
  rw [Path.source_toList]
  exact hp.name.unblank _

theorem reads_word {word : String} (hword : IsName word) {kind : TagKind} {cs rest : List Char}
    {tokens : List Token} (h : Reads kind false (' ' :: cs) tokens rest) :
    Reads kind false (' ' :: (word.toList ++ ' ' :: cs)) (.name word :: tokens) rest :=
  .blank (hword.unblank _) (.word hword (parted_blank cs) h false)

section

variable {p : Path} {cs : List Char} {more : List Token}

theorem continues_output (hp : p.WellFormed) (h : Scans cs more) :
    Continues ("\x7b\x7b ".toList ++ (p.source.toList ++ (" \x7d\x7d".toList ++ cs)))
      (.outputStart :: (p.tokens ++ .outputEnd :: more)) :=
  .tag .output rfl (reads_path hp .output cs) (by simp; omega) h

theorem continues_if (hp : p.WellFormed) (h : Scans cs more) :
    Continues ("\x7b% if ".toList ++ (p.source.toList ++ (" %\x7d".toList ++ cs)))
      (.tagStart :: .name "if" :: (p.tokens ++ .tagEnd :: more)) :=
  .tag .statement rfl (reads_word (by decide) (reads_path hp .statement cs)) (by simp; omega) h

theorem continues_for {x : String} (hx : IsVariable x) (hp : p.WellFormed) (h : Scans cs more) :
    Continues ("\x7b% for ".toList ++ (x.toList ++ (" in ".toList ++
        (p.source.toList ++ (" %\x7d".toList ++ cs)))))
      (.tagStart :: .name "for" :: .name x :: .name "in" :: (p.tokens ++ .tagEnd :: more)) :=
  .tag .statement rfl
    (reads_word (by decide) (reads_word hx.name (reads_word (by decide) (reads_path hp .statement cs))))
    (by simp; omega) h

theorem continues_else (h : Scans cs more) :
    Continues ("\x7b% else %\x7d".toList ++ cs) (.tagStart :: .name "else" :: .tagEnd :: more) :=
  .tag .statement rfl (reads_word (by decide) (reads_close .statement cs)) (by simp; omega) h

theorem continues_endif (h : Scans cs more) :
    Continues ("\x7b% endif %\x7d".toList ++ cs) (.tagStart :: .name "endif" :: .tagEnd :: more) :=
  .tag .statement rfl (reads_word (by decide) (reads_close .statement cs)) (by simp; omega) h

theorem continues_endfor (h : Scans cs more) :
    Continues ("\x7b% endfor %\x7d".toList ++ cs) (.tagStart :: .name "endfor" :: .tagEnd :: more) :=
  .tag .statement rfl (reads_word (by decide) (reads_close .statement cs)) (by simp; omega) h

end

/-- A template is read as its tokens. -/
theorem scans (t : PathTemplate) {behind : List Char} (h : t.WellFormed behind) {cs : List Char}
    (hcs : cs.take 1 = behind) {more : List Token} (continues : Continues cs more) :
    Scans (t.charsBefore cs) (t.tokens ++ more) := by
  induction t generalizing behind cs more with
  | text s => exact .text (isTagless_unifyLineEnds (by rw [hcs]; exact h)) continues
  | output before p rest ih =>
      obtain ⟨hbefore, hp, hrest⟩ := h
      have h := Scans.text (isTagless_unifyLineEnds hbefore)
        (continues_output hp (ih hrest hcs continues))
      simpa only [charsBefore, tokens, List.append_assoc, List.cons_append] using h
  | cond before p yes no rest ihyes ihno ih =>
      obtain ⟨hbefore, hp, hyes, hno, hrest⟩ := h
      have h := Scans.text (isTagless_unifyLineEnds hbefore)
        (continues_if hp (ihyes hyes rfl (continues_else (ihno hno rfl
          (continues_endif (ih hrest hcs continues))))))
      simpa only [charsBefore, tokens, List.append_assoc, List.cons_append] using h
  | loop before x p body rest ihbody ih =>
      obtain ⟨hbefore, hx, hp, hbody, hrest⟩ := h
      have h := Scans.text (isTagless_unifyLineEnds hbefore)
        (continues_for hx hp (ihbody hbody rfl (continues_endfor (ih hrest hcs continues))))
      simpa only [charsBefore, tokens, List.append_assoc, List.cons_append] using h

theorem scan_source (t : PathTemplate) (h : t.WellFormed []) :
    scan (Text.unifyLineEnds t.source.toList) = .ok t.tokens := by
  have hchars : Text.unifyLineEnds (t.source.toList ++ []) = t.charsBefore [] :=
    t.unifyLineEnds_source h (by simp)
  rw [List.append_nil] at hchars
  have hscans := t.scans h rfl Continues.nil
  rw [List.append_nil] at hscans
  rw [hchars, scan]
  rw [hscans _ _ (Nat.lt_succ_self _)]
  simp [Except.map]

end PathTemplate

end ImagePreload.Template
