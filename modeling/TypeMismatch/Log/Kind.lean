import TypeMismatch.Log.Format
import TypeMismatch.Log.Opening
import TypeMismatch.Text.Split
import TypeMismatch.Value.Order

/-!
# Kinds of what a set-up makes

A part of a set-up names a class and gives arguments to it. The arguments must be the ones that the
class needs, besides those that it takes, and they must go together: a file must be one that can be
opened in the mode and the encoding asked for, a schedule must be known, and an address must have
two parts.

Source: the classes of formatters and handlers that `dictConfig` finds by name.
-/

namespace TypeMismatch

/-- A kind of what is made: the name of its class, the parameters it needs, those it takes besides,
in order, and whether the arguments go together. -/
structure Kind where
  name : String
  needs : List String
  takes : List String
  fits : Files → Arguments → Bool

namespace Kind

/-- Whether the file that a handler writes can be opened, or is opened later. The mode is the given
one if the handler does not say. -/
def opensFile (defaultMode : String) (files : Files) (args : Arguments) : Bool :=
  match args.value? "filename" .null with
  | some (.text name) =>
    if (args.get "delay").isGiven then Opening.canBeSearched (args.getD "mode" defaultMode)
    else (Opening.fault? defaultMode files name args).isNone
  | _ => false

/-- Whether something is a number. -/
def isNumber : Value → Bool
  | .int _ | .bool _ | .float _ | .nan _ => true
  | _ => false

/-- Whether a number is above zero. -/
def isPositive (v : Value) : Bool := v.amount?.any fun a => Amount.less (.quotient 0 1) a

/-- Whether a handler that begins a new file at a size can be made. With a size it appends. -/
def opensSized (files : Files) (args : Arguments) : Bool :=
  match args.value? "maxBytes" (.int 0) with
  | some size =>
    isNumber size
      && opensFile "a" files (if isPositive size then args.put "mode" "a" else args)
  | none => false

/-- Whether a text is a schedule. -/
def isSchedule (s : List Char) : Bool :=
  let s := s.map Char.toUpper
  ["S", "M", "H", "D", "MIDNIGHT"].any (·.toList = s)
    || match s with
      | ['W', day] => '0' ≤ day && day ≤ '6'
      | _ => false

/-- Whether a handler that begins a new file at certain times can be made. -/
def opensTimed (files : Files) (args : Arguments) : Bool :=
  match args.value? "when" "h", args.value? "interval" (.int 1), args.value? "atTime" .null with
  | some (.text schedule), some interval, some time =>
    isSchedule schedule.toList && isNumber interval && opensFile "a" files args
      && (!time.isGiven || schedule.toList.length = 1)
  | _, _, _ => false

/-- Whether something is no row, or one of two. -/
def isPairOrOne : Referent → Bool
  | .value (.list vs) | .value (.tuple vs) => vs.length = 2
  | _ => true

/-- Whether a handler that sends mail can be made. -/
def mails (_ : Files) (args : Arguments) : Bool :=
  match args.get "mailhost", args.get "credentials" with
  | .value host, .value credentials =>
    isPairOrOne (.value host) && isPairOrOne (.value credentials)
  | _, _ => true

/-- Whether a handler that sends requests can be made. -/
def requests (_ : Files) (args : Arguments) : Bool :=
  match args.value? "method" "GET" with
  | some (.text method) =>
    ["GET", "POST"].any (·.toList = method.toList.map Char.toUpper)
      && ((args.get "secure").isGiven || match args.get "context" with
        | .value .null => true
        | _ => false)
  | _ => false

/-- Whether a text names this machine or has the form of an address of a machine. -/
def isMachine (s : String) : Bool :=
  s = "localhost" || match Text.split '.' s.toList with
    | [a, b, c, d] => [a, b, c, d].all fun part =>
      !part.isEmpty && part.all Text.isDigit && Text.digitsValue part ≤ 255
    | _ => false

/-- Whether a handler that sends to the log of a machine can be made. An address of one part is not
looked at before something is sent. -/
def sendsToMachine (_ : Files) (args : Arguments) : Bool :=
  match args.getD "address" (.text "localhost") with
  | .value (.text _) => true
  | .value (.list [.text host, .int port]) => isMachine host && 0 ≤ port && port ≤ 65535
  | _ => false

/-- Whether a format, a style and the wish to have them checked go together. -/
def isFormat (format style check : Referent) : Bool :=
  match style with
  | .value (.text style) =>
    Format.isStyle style
      && (!check.isGiven || !format.isGiven || match format with
        | .value (.text f) => Format.isValid style f.toList
        | _ => false)
  | _ => false

/-- Whether a formatter can be made. -/
def isFormatted (_ : Files) (args : Arguments) : Bool :=
  isFormat (args.get "fmt") (args.getD "style" "%") (args.getD "validate" (.bool true))

/-- Whether the name of a filter has a length. -/
def hasLength (_ : Files) (args : Arguments) : Bool :=
  (args.value? "name" "").any fun v => v.items?.isSome

/-- Nothing is asked of the arguments. -/
def always (_ : Files) (_ : Arguments) : Bool := true

/-- The handler that watches its file. -/
def watcher : String := "logging.handlers.WatchedFileHandler"

/-- The handler that gathers records for a target. -/
def gatherer : String := "logging.handlers.MemoryHandler"

/-- The kinds of handlers. -/
def handlers : List Kind :=
  [⟨"logging.StreamHandler", [], ["stream"], always⟩,
   ⟨"logging.handlers.NTEventLogHandler", ["appname"], ["dllname", "logtype"], always⟩,
   ⟨"logging.NullHandler", [], ["level"], always⟩, ⟨"logging.Handler", [], ["level"], always⟩,
   ⟨"logging.FileHandler", ["filename"], ["mode", "encoding", "delay", "errors"], opensFile "a"⟩,
   ⟨watcher, ["filename"], ["mode", "encoding", "delay", "errors"],
    opensFile "a"⟩,
   ⟨"logging.handlers.BaseRotatingHandler", ["filename", "mode"], ["encoding", "delay", "errors"],
    opensFile "a"⟩,
   ⟨"logging.handlers.RotatingFileHandler", ["filename"],
    ["mode", "maxBytes", "backupCount", "encoding", "delay", "errors"], opensSized⟩,
   ⟨"logging.handlers.TimedRotatingFileHandler", ["filename"],
    ["when", "interval", "backupCount", "encoding", "delay", "utc", "atTime", "errors"],
    opensTimed⟩,
   ⟨"logging.handlers.BufferingHandler", ["capacity"], [], always⟩,
   ⟨gatherer, ["capacity"], ["flushLevel", "target", "flushOnClose"], always⟩,
   ⟨"logging.handlers.QueueHandler", ["queue"], [], always⟩,
   ⟨"logging.handlers.SocketHandler", ["host", "port"], [], always⟩,
   ⟨"logging.handlers.DatagramHandler", ["host", "port"], [], always⟩,
   ⟨"logging.handlers.SysLogHandler", [], ["address", "facility"], sendsToMachine⟩,
   ⟨"logging.handlers.SMTPHandler", ["mailhost", "fromaddr", "toaddrs", "subject"],
    ["credentials", "secure", "timeout"], mails⟩,
   ⟨"logging.handlers.HTTPHandler", ["host", "url"],
    ["method", "secure", "credentials", "context"], requests⟩]

/-- The formatter. -/
def formatter : Kind :=
  ⟨"logging.Formatter", [], ["fmt", "datefmt", "style", "validate", "defaults"], isFormatted⟩

/-- The kinds of things that stand for handlers, but can be given no formatter and no level. -/
def others : List Kind :=
  [formatter, ⟨"logging.BufferingFormatter", [], ["linefmt"], always⟩,
   ⟨"logging.Filter", [], ["name"], hasLength⟩,
   ⟨"logging.PercentStyle", ["fmt"], ["defaults"], always⟩,
   ⟨"logging.StrFormatStyle", ["fmt"], ["defaults"], always⟩,
   ⟨"logging.PlaceHolder", ["alogger"], [], always⟩, ⟨"logging.Filterer", [], [], always⟩,
   ⟨"logging.handlers.QueueListener", ["queue"], ["respect_handler_level"], always⟩,
   ⟨"string.Formatter", [], [], always⟩]

/-- The kind whose class has a name. -/
def named? (name : String) : Option Kind := (handlers ++ others).find? (·.name == name)

/-- The name of the class without what is before it. -/
def className (k : Kind) : String := Referent.lastPart k.name

/-- Whether what is made handles records. -/
def isHandler (k : Kind) : Bool := handlers.any (·.name == k.name)

/-- The parameters of the class, in order. -/
def parameters (k : Kind) : List String := k.needs ++ k.takes

/-- What is given by position, under the names of the parameters, if there are so many. -/
def byPosition? (k : Kind) (rs : List Referent) : Option Arguments :=
  if rs.length ≤ k.parameters.length then some (k.parameters.zip rs) else none

/-- Whether something can be made with arguments. -/
def accepts (k : Kind) (files : Files) (args : Arguments) : Bool :=
  args.all (fun e => k.parameters.contains e.1) && k.needs.all args.has
    && k.fits files args

/-- The file that is opened when something is made. -/
def openedFile? (k : Kind) (args : Arguments) : Option OpenedFile :=
  if !k.needs.contains "filename" || (args.get "delay").isGiven then none
  else
    let size := (args.value? "maxBytes" .null).getD .null
    match args.value? "filename" .null, args.value? "mode" "a" with
    | some (.text name), some (.text mode) =>
      some ⟨(Path.ofString name).collapsed, mode.toList.contains 'w' && !isPositive size⟩
    | _, _ => none

end Kind
end TypeMismatch
