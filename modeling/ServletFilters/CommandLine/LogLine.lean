import ServletFilters.Event
import ServletFilters.Text.Quoted

/-!
Log entries as lines: the time, the level set against the right of five columns, the component, and
the message with the other fields, each part in its style where styles are in use.
-/

namespace ServletFilters.CommandLine

/-- Styles go by number: 2 is dimmed, 3 is italic, and the colours begin at 30. -/
def styled (inUse : Bool) (style : Nat) (s : String) : String :=
  if inUse then "\x1b[" ++ toString style ++ "m" ++ s ++ "\x1b[0m" else s

def colour : Level → Nat
  | .error => 31
  | .warn => 33
  | .info => 32
  | .debug => 34
  | .trace => 35

def showField (styles : Bool) : String × FieldValue → String
  | (name, value) =>
    styled styles 3 name ++ styled styles 2 "=" ++ match value with
      | .number n => toString n
      | .bare s => s
      | .quoted s => Text.quoted s

def logLine (styles : Bool) (time : String) (l : LogEntry) : String :=
  let level := String.ofList (l.level.name.toList.leftpad 5 ' ')
  styled styles 2 time ++ " " ++ styled styles (colour l.level) level ++ " "
    ++ styled styles 2 l.component ++ styled styles 2 ":" ++ " "
    ++ " ".intercalate (l.message :: l.fields.map (showField styles))

end ServletFilters.CommandLine
