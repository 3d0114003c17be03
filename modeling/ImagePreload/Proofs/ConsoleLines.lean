import ImagePreload.Log.Formatter
import ImagePreload.Proofs.Acceptance

/-!
# Lines on a console

An event is put into a layout by a reader of formats, which looks for braces, and
what it puts in comes from whoever logs. It still never takes anything of the event
for a part of the format, since it reads the layout alone: a field that is found is
written and left behind (`fillFrom_field`). So a line is laid out in one way whatever
the event says and whatever its fields are called (`Formatter.console_verbatim`). The
fields that are made for the layout take the place of any others of their names, and
none of them shows again, for all of those names are reserved (`extraFields_withLevel`).
Which names these are and which color belongs to which level is said here by itself
(`placedNames`, `levelColors`), and of capitals what they are for each character.
-/

namespace ImagePreload

namespace LogFields

theorem get?_set (fields : LogFields) (name : String) (v : Value) :
    (fields.set name v).get? name = some v := by
  induction fields with
  | nil => simp [set, get?]
  | cons field fields ih =>
      obtain ⟨n, w⟩ := field
      rw [set]
      split
      · next heq => rw [get?, List.lookup_cons, beq_iff_eq.1 heq, beq_self_eq_true]
      · next hne =>
          have hname : (name == n) = false := by
            rw [beq_eq_false_iff_ne]
            exact fun h => hne (beq_iff_eq.2 h.symm)
          rw [get?, List.lookup_cons, hname]
          exact ih

theorem get?_set_of_ne {name other : String} (hne : other ≠ name) (fields : LogFields)
    (v : Value) : (fields.set name v).get? other = fields.get? other := by
  have hother : (other == name) = false := beq_eq_false_iff_ne.2 hne
  induction fields with
  | nil => simp [set, get?, List.lookup_cons, hother]
  | cons field fields ih =>
      obtain ⟨n, w⟩ := field
      rw [set]
      split
      · next heq => rw [beq_iff_eq.1 heq, get?, get?, List.lookup_cons, List.lookup_cons, hother]
      · rw [get?, get?, List.lookup_cons, List.lookup_cons]
        split
        · rfl
        · exact ih

end LogFields

namespace Text

/-- Every character is put in upper case by itself. -/
theorem upper_eq_join (s : String) :
    upper s = String.join (s.toList.map fun c => upper (.singleton c)) := by
  rw [← String.toList_inj, String.toList_join]
  simp [upper, List.flatMap_def, Function.comp_def]

theorem upper_singleton_of_lt {c : Char} (h : c.toNat < 128) :
    upper (.singleton c) = .singleton c.toUpper := by
  rw [← String.toList_inj]
  simp [upper, upperChar, h]

end Text

namespace Log

/-! ## Fields of a layout -/

theorem fillFrom_text {fields : LogFields} {fuel : Nat} {cs rest : List Char} {c : Char}
    {text : String} (piece : Format.takePiece cs = .ok (some (.text c, rest)))
    (more : fillFrom fields fuel rest = .ok text) :
    fillFrom fields (fuel + 1) cs = .ok (String.singleton c ++ text) := by
  rw [fillFrom, piece]
  simp only [Except.mapError, bind, Except.bind, more, pure, Except.pure]

theorem fillFrom_field {fields : LogFields} {fuel : Nat} {cs rest : List Char}
    {name spec : List Char} {v : Value} {part text : String}
    (piece : Format.takePiece cs = .ok (some (.field ⟨name, none, spec⟩, rest)))
    (found : fields.get? (.ofList name) = some v) (written : specified spec v = .ok part)
    (more : fillFrom fields fuel rest = .ok text) :
    fillFrom fields (fuel + 1) cs = .ok (part ++ text) := by
  rw [fillFrom, piece]
  simp only [Except.mapError, bind, Except.bind, found, written, more, pure, Except.pure]

/-- A text moved to the right end of so many columns. -/
def alignRight (width : Nat) (s : String) : String :=
  String.ofList (List.replicate (width - s.length) ' ') ++ s

theorem specified_none (s : String) : specified [] (.text s) = .ok s := rfl

theorem formatText_plain (s : String) :
    Format.formatText ⟨' ', '<', none, false, false, 0, none, none, some 's'⟩ s = .ok s := by
  have hpad (cs : List Char) :
      Format.Spec.pad ⟨' ', '<', none, false, false, 0, none, none, some 's'⟩ [] cs = cs := by
    simp [Format.Spec.pad]
  simp [Format.formatText, hpad]

theorem formatText_alignRight (width : Nat) (s : String) :
    Format.formatText ⟨' ', '>', none, false, false, width, none, none, some 's'⟩ s =
      .ok (alignRight width s) := by
  have hpad (cs : List Char) :
      Format.Spec.pad ⟨' ', '>', none, false, false, width, none, none, some 's'⟩ [] cs =
        List.replicate (width - cs.length) ' ' ++ cs := by
    simp [Format.Spec.pad]
  simp [Format.formatText, hpad, alignRight, String.length_toList]

theorem specified_text (s : String) : specified ['s'] (.text s) = .ok s := by
  show Except.mapError LayoutFailure.format (Format.Spec.read .text "str" ['s'] >>= fun spec =>
    Format.formatText spec s) = _
  have hspec : Format.Spec.read .text "str" ['s'] =
      .ok ⟨' ', '<', none, false, false, 0, none, none, some 's'⟩ := rfl
  rw [hspec, mapError_eq_ok]
  exact formatText_plain s

theorem specified_alignRight (s : String) :
    specified ['>', '8', 's'] (.text s) = .ok (alignRight 8 s) := by
  show Except.mapError LayoutFailure.format
    (Format.Spec.read .text "str" ['>', '8', 's'] >>= fun spec => Format.formatText spec s) = _
  have hspec : Format.Spec.read .text "str" ['>', '8', 's'] =
      .ok ⟨' ', '>', none, false, false, 8, none, none, some 's'⟩ := rfl
  rw [hspec, mapError_eq_ok]
  exact formatText_alignRight 8 s

theorem fill_consoleLayout {fields : LogFields} {color level event : String}
    (hcolor : fields.get? "log_color" = some (.text color))
    (hlevel : fields.get? "level_uc" = some (.text level))
    (hevent : fields.get? "event" = some (.text event)) :
    fill consoleLayout fields = .ok (color ++ (alignRight 8 level ++ (": " ++ event))) := by
  have hend (fuel : Nat) : fillFrom fields (fuel + 1) [] = .ok "" := rfl
  have hfuel : consoleLayout.toList.length + 1 = 31 + 6 := rfl
  have hfield : fillFrom fields (31 + 2) "\x7bevent:s\x7d".toList = .ok (event ++ "") :=
    fillFrom_field (by rfl) hevent (specified_text event) (hend 31)
  have hspace : fillFrom fields (31 + 3) " \x7bevent:s\x7d".toList =
      .ok (String.singleton ' ' ++ (event ++ "")) := fillFrom_text (by rfl) hfield
  have htail : fillFrom fields (31 + 4) ": \x7bevent:s\x7d".toList = .ok (": " ++ event) := by
    have h : fillFrom fields (31 + 4) ": \x7bevent:s\x7d".toList =
        .ok (String.singleton ':' ++ (String.singleton ' ' ++ (event ++ ""))) :=
      fillFrom_text (by rfl) hspace
    rw [h, ← String.append_assoc, String.append_empty]
    rfl
  rw [fill, hfuel]
  exact fillFrom_field (by rfl) hcolor (specified_none color)
    (fillFrom_field (by rfl) hlevel (specified_alignRight level) htail)

/-! ## Fields behind the layout -/

theorem extraFields_cons_reserved {name : String} (reserved : name ∈ reservedFields) (v : Value)
    (fields : LogFields) : extraFields ((name, v) :: fields) = extraFields fields :=
  List.filter_cons_of_neg (by simpa using reserved)

theorem extraFields_set {name : String} (reserved : name ∈ reservedFields) (fields : LogFields)
    (v : Value) : extraFields (fields.set name v) = extraFields fields := by
  induction fields with
  | nil => exact extraFields_cons_reserved reserved v []
  | cons field fields ih =>
      obtain ⟨n, w⟩ := field
      rw [LogFields.set]
      split
      · next heq =>
          cases beq_iff_eq.1 heq
          rw [extraFields_cons_reserved reserved, extraFields_cons_reserved reserved]
      · rw [extraFields, extraFields, List.filter_cons, List.filter_cons, ← extraFields,
          ← extraFields, ih]

theorem extraFields_withLevel (palette : Palette) (level : String) (fields : LogFields) :
    extraFields (withLevel palette level fields) = extraFields fields := by
  rw [withLevel, extraFields_set (by decide), extraFields_set (by decide),
    extraFields_set (by decide)]

theorem get?_withLevel {name : String}
    (h : name ∉ ["log_color_reset", "log_color", "level_uc"]) (palette : Palette) (level : String)
    (fields : LogFields) : (withLevel palette level fields).get? name = fields.get? name := by
  simp only [List.mem_cons, List.not_mem_nil, not_or] at h
  rw [withLevel, LogFields.get?_set_of_ne h.2.2.1, LogFields.get?_set_of_ne h.2.1,
    LogFields.get?_set_of_ne h.1]

theorem extraText_eq {fields : LogFields}
    (printable : ∀ field ∈ extraFields fields, field.2.isTooLong = false) :
    extraText fields = .ok
      (String.join ((extraFields fields).map fun (name, v) => " " ++ name ++ "=" ++ v.display)) := by
  rw [extraText, mapM_eq_map (g := fun (name, v) => " " ++ name ++ "=" ++ v.display)]
  · rfl
  · rintro ⟨name, v⟩ hfield
    have hshown : shown v = .ok v.display := if_neg (by simp [printable _ hfield])
    simp only [hshown]
    rfl

theorem lineText_eq {name : String} {fields : LogFields} {s : Option String}
    (h : (fields.get? name).getD .null = s.elim .null .text) :
    lineText name fields = .ok (s.elim "" ("\n" ++ ·)) := by
  cases hget : fields.get? name with
  | none =>
      rw [hget] at h
      cases s with
      | none => rw [lineText, hget]; rfl
      | some s => cases h
  | some v =>
      rw [hget] at h
      cases s with
      | none =>
          cases (h : v = .null)
          rw [lineText, hget]
          rfl
      | some s =>
          cases (h : v = .text s)
          rw [lineText, hget]
          rfl

/-! ## Whole lines -/

/-- The names of fields that have a place of their own in lines, or none. -/
def placedNames : List String :=
  ["event", "level", "level_uc", "log_color", "log_color_reset", "timestamp",
    "timestamp_local_ctime", "file", "line", "function", "process", "thread_name", "logger",
    "stack", "exception", "_record", "_from_structlog"]

/-- The fields of any other name, in order. -/
def otherFields (fields : LogFields) : LogFields :=
  fields.filter fun field => decide (field.1 ∉ placedNames)

theorem extraFields_eq (fields : LogFields) : extraFields fields = otherFields fields :=
  List.filter_congr fun _ _ => by simp [placedNames, reservedFields]

/-- A line for a console without any colors. -/
def consoleLine (level event : String) (fields : LogFields) (stack exception : Option String) :
    String :=
  alignRight 8 (Text.upper level) ++ ": " ++ event
    ++ String.join ((otherFields fields).map fun (name, v) => " " ++ name ++ "=" ++ v.display)
    ++ stack.elim "" ("\n" ++ ·) ++ exception.elim "" ("\n" ++ ·)

theorem render_consoleLayout (palette : Palette) {fields : LogFields} {level event : String}
    {stack exception : Option String} (hlevel : fields.get? "level" = some (.text level))
    (hevent : fields.get? "event" = some (.text event)) (untimed : fields.get? "timestamp" = none)
    (hstack : (fields.get? "stack").getD .null = stack.elim .null .text)
    (hexception : (fields.get? "exception").getD .null = exception.elim .null .text)
    (printable : ∀ field ∈ otherFields fields, field.2.isTooLong = false) :
    render consoleLayout palette fields = .ok
      (palette.color level ++ consoleLine level event fields stack exception ++ palette.reset) := by
  have hlevelOf : levelOf fields = .ok level := by rw [levelOf, hlevel]
  have htime :
      withTime (withLevel palette level fields) = .ok (withLevel palette level fields) := by
    rw [withTime, get?_withLevel (by decide), untimed]
  have hfill : fill consoleLayout (withLevel palette level fields) = .ok (palette.color level ++
      (alignRight 8 (Text.upper level) ++ (": " ++ event))) := fill_consoleLayout
    (by rw [withLevel, LogFields.get?_set_of_ne (by decide), LogFields.get?_set])
    (by rw [withLevel, LogFields.get?_set])
    (by rw [get?_withLevel (by decide), hevent])
  have hextra := @extraText_eq (withLevel palette level fields)
    (by rwa [extraFields_withLevel, extraFields_eq])
  have hlineStack : lineText "stack" (withLevel palette level fields) =
      .ok (stack.elim "" ("\n" ++ ·)) :=
    lineText_eq (by rwa [get?_withLevel (by decide)])
  have hlineException : lineText "exception" (withLevel palette level fields) =
      .ok (exception.elim "" ("\n" ++ ·)) :=
    lineText_eq (by rwa [get?_withLevel (by decide)])
  rw [extraFields_withLevel, extraFields_eq] at hextra
  rw [render, hlevelOf]
  simp only [bind, Except.bind, htime, hfill, hextra, hlineStack, hlineException, pure, Except.pure,
    consoleLine, String.append_assoc]

/-! ## Colors -/

/-- The sequences that stand in front of the levels. -/
def levelColors : List (String × String) :=
  [("critical", "\x1b[31m"), ("exception", "\x1b[31m"), ("error", "\x1b[31m"),
    ("warn", "\x1b[33m"), ("warning", "\x1b[33m"), ("info", "\x1b[32m"), ("debug", "\x1b[37m"),
    ("notset", "\x1b[41m")]

theorem colors_color (level : String) :
    colors.color level = (levelColors.lookup level).getD "" := by
  by_cases known : level ∈ levelColors.map Prod.fst
  · simp only [levelColors, List.map_cons, List.map_nil, List.mem_cons, List.not_mem_nil,
      or_false] at known
    rcases known with rfl | rfl | rfl | rfl | rfl | rfl | rfl | rfl <;> rfl
  · have hnone : levelColors.lookup level = none := by
      rw [List.lookup_eq_none_iff]
      exact fun field hfield => bne_iff_ne.2 fun h => known (h ▸ List.mem_map_of_mem hfield)
    simp only [levelColors, List.map_cons, List.map_nil, List.mem_cons, List.not_mem_nil,
      not_or, not_false_eq_true, and_true] at known
    rw [hnone]
    simp [colors, known]

/-- Whatever an event says and whatever its fields are called, both console formatters write it in
the one layout, and the colors stand around all of it. The capitals of the level are those of its
characters one by one, and of an ASCII character they are what they are anywhere. -/
theorem Formatter.console_verbatim (fields : LogFields) (level event : String)
    (stack exception : Option String) (hlevel : fields.get? "level" = some (.text level))
    (hevent : fields.get? "event" = some (.text event)) (untimed : fields.get? "timestamp" = none)
    (hstack : (fields.get? "stack").getD .null = stack.elim .null .text)
    (hexception : (fields.get? "exception").getD .null = exception.elim .null .text)
    (printable : ∀ field ∈ otherFields fields, field.2.isTooLong = false) :
    Formatter.plain.render fields = .ok (consoleLine level event fields stack exception) ∧
      Formatter.colored.render fields = .ok ((levelColors.lookup level).getD "" ++
        consoleLine level event fields stack exception ++ "\x1b[0m") ∧
      Text.upper level = String.join (level.toList.map fun c => Text.upper (.singleton c)) ∧
      ∀ c : Char, c.toNat < 128 → Text.upper (.singleton c) = .singleton c.toUpper := by
  refine ⟨?_, ?_, Text.upper_eq_join level, fun c => Text.upper_singleton_of_lt⟩
  · have h := render_consoleLayout noColors hlevel hevent untimed hstack hexception printable
    simpa [Formatter.render, noColors] using h
  · have h := render_consoleLayout colors hlevel hevent untimed hstack hexception printable
    rw [colors_color] at h
    exact h

/-- An event that looks like a format, with fields that are called like those of the layout. -/
def bracedFields : LogFields :=
  [("event", .text "a \x7blevel\x7d %s"), ("level", .text "info"), ("log_color", .text "red"),
    ("\x7b", .bool true), ("n", .list [.int (-7), .text "x"]), ("stack", .null),
    ("exception", .text "gone")]

theorem Formatter.console_verbatim_braces :
    Formatter.plain.render bracedFields =
        .ok "    INFO: a \x7blevel\x7d %s \x7b=True n=[-7, 'x']\ngone" ∧
      Formatter.colored.render bracedFields =
        .ok "\x1b[32m    INFO: a \x7blevel\x7d %s \x7b=True n=[-7, 'x']\ngone\x1b[0m" := by
  have h := Formatter.console_verbatim bracedFields "info" "a \x7blevel\x7d %s" none (some "gone")
    rfl rfl rfl rfl rfl (by decide +kernel)
  have hline : consoleLine "info" "a \x7blevel\x7d %s" bracedFields none (some "gone") =
      "    INFO: a \x7blevel\x7d %s \x7b=True n=[-7, 'x']\ngone" := by decide +kernel
  rw [hline] at h
  exact ⟨h.1, h.2.1⟩

end Log

end ImagePreload
