import Retrace.Datum.Show

/-!
# Options of a script

What the header of a script is written from. Options are data and may be given
by their names; the others keep their defaults.
-/

namespace Retrace.Script

structure Options where
  browserName : Datum := .text "chromium"
  channel : Datum := .none
  headless : Datum := .bool true
  screenshot : Datum := .text "only-on-failure"
  viewport : Datum := .none
  deriving Repr

namespace Options

def fields (o : Options) : List (String × Datum) :=
  [("browser_name", o.browserName), ("channel", o.channel), ("headless", o.headless),
    ("screenshot", o.screenshot), ("viewport", o.viewport)]

/-- Sets the option of a name, if there is one. -/
def set? (o : Options) (name : String) (value : Datum) : Option Options :=
  match name with
  | "browser_name" => some { o with browserName := value }
  | "channel" => some { o with channel := value }
  | "headless" => some { o with headless := value }
  | "screenshot" => some { o with screenshot := value }
  | "viewport" => some { o with viewport := value }
  | _ => none

/-- A name that no option has. -/
structure Unknown where
  name : String
  deriving DecidableEq, Repr

def Unknown.message (u : Unknown) : String :=
  s!"HeaderOptions.__init__() got an unexpected keyword argument '{u.name}'"

def setAll (o : Options) : List (Datum × Datum) → Except Unknown Options
  | [] => .ok o
  | (key, value) :: rest =>
    match o.set? key.plain value with
    | some o => o.setAll rest
    | none => .error ⟨key.plain⟩

def ofEntries (entries : List (Datum × Datum)) : Except Unknown Options := setAll {} entries

end Options

end Retrace.Script
