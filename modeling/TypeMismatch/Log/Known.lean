import TypeMismatch.Level
import TypeMismatch.Text.Split
import TypeMismatch.Value

/-!
# Known names

A set-up of the log may refer to things outside it by names with points. Some of them are plain
values; of the others only the kind matters.

Source: what `dictConfig` imports for `ext://` and for the name of a class.
-/

namespace TypeMismatch

/-- What a value of a set-up stands for: a value, or a thing of some kind known under a name. -/
inductive Referent where
  | value (v : Value)
  | thing (name kind : String)

namespace Referent

/-- Whether what is referred to counts as given. -/
def isGiven : Referent → Bool
  | value v => v.isGiven
  | thing _ _ => true

/-- The packages that are known. -/
def packages : List String :=
  ["asyncio", "collections", "concurrent", "concurrent.futures", "ctypes", "email", "encodings",
   "html", "http", "importlib", "json", "logging", "multiprocessing", "re", "sqlite3", "tomllib",
   "typediff", "typediff.reporting", "typediff.telemetry", "typediff.typenames", "typediff.utils",
   "unittest", "urllib", "xml", "xml.etree", "yaml", "zoneinfo"]

/-- The modules that are known and are no packages. -/
def modules : List String :=
  ["abc", "argparse", "array", "ast", "atexit", "base64", "bisect", "builtins", "bz2", "calendar",
   "cmath", "codecs", "configparser", "contextlib", "copy", "csv", "dataclasses", "datetime",
   "decimal", "difflib", "dis", "enum", "errno", "faulthandler", "fnmatch", "fractions",
   "functools", "gc", "getopt", "getpass", "gettext", "glob", "gzip", "hashlib", "heapq", "hmac",
   "inspect", "io", "ipaddress", "itertools", "json.decoder", "json.encoder", "keyword",
   "linecache", "locale", "logging.config", "logging.handlers", "lzma", "marshal", "math",
   "mimetypes", "numbers", "operator", "os", "os.path", "pathlib", "pdb", "pickle", "pkgutil",
   "platform", "posixpath", "pprint", "queue", "random", "reprlib", "runpy", "sched", "secrets",
   "select", "shelve", "shlex", "shutil", "signal", "site", "socket", "socketserver", "ssl",
   "stat", "statistics", "string", "struct", "subprocess", "symtable", "sys", "sysconfig",
   "tarfile", "tempfile", "textwrap", "threading", "time", "timeit", "token", "tokenize",
   "traceback", "typediff.reporting.cli", "typediff.reporting.reporter",
   "typediff.reporting.types", "typediff.telemetry.logger", "typediff.typenames.differ",
   "typediff.typenames.parser", "typediff.typenames.reconstructor", "typediff.typenames.resolver",
   "typediff.typenames.signature", "typediff.utils.config", "types", "typing", "unicodedata",
   "urllib.parse", "urllib.request", "uuid", "warnings", "weakref", "zipfile", "zlib"]

/-- Whether a name is that of a module. -/
def isModule (name : String) : Bool := packages.contains name || modules.contains name

/-- The streams that are known. -/
def streams : List String :=
  ["sys.stderr", "sys.stdout", "sys.stdin", "sys.__stderr__", "sys.__stdout__", "sys.__stdin__"]

/-- The kind of a stream. -/
def streamKind : String := "_io.TextIOWrapper"

/-- The kind of a class. -/
def classKind : String := "type"

/-- The classes that are known. -/
def classes : List String :=
  ["logging.Filter", "logging.Formatter", "logging.BufferingFormatter", "logging.Logger",
   "logging.LoggerAdapter", "logging.Handler", "logging.StreamHandler", "logging.NullHandler",
   "logging.FileHandler", "logging.handlers.BaseRotatingHandler",
   "logging.handlers.RotatingFileHandler", "logging.handlers.TimedRotatingFileHandler",
   "logging.handlers.WatchedFileHandler", "logging.handlers.SocketHandler",
   "logging.handlers.DatagramHandler", "logging.handlers.SysLogHandler",
   "logging.handlers.SMTPHandler", "logging.handlers.HTTPHandler",
   "logging.handlers.BufferingHandler", "logging.handlers.MemoryHandler",
   "logging.handlers.QueueHandler", "logging.handlers.QueueListener",
   "logging.handlers.NTEventLogHandler", "logging.Filterer", "logging.LogRecord",
   "logging.Manager", "logging.PercentStyle", "logging.PlaceHolder", "logging.RootLogger",
   "logging.StrFormatStyle", "logging.StringTemplateStyle", "logging.config.BaseConfigurator",
   "logging.config.ConvertingDict", "logging.config.ConvertingList",
   "logging.config.ConvertingTuple", "logging.config.DictConfigurator", "string.Formatter"]

/-- The functions that are known and belong to the log. -/
def functions : List String :=
  ["logging.addLevelName", "logging.basicConfig", "logging.captureWarnings", "logging.critical",
   "logging.debug", "logging.disable", "logging.error", "logging.exception", "logging.fatal",
   "logging.getLevelName", "logging.getLevelNamesMapping", "logging.getLogRecordFactory",
   "logging.getLogger", "logging.getLoggerClass", "logging.info", "logging.log",
   "logging.makeLogRecord", "logging.setLogRecordFactory", "logging.setLoggerClass",
   "logging.shutdown", "logging.warn", "logging.warning", "logging.config.dictConfig",
   "logging.config.fileConfig", "logging.config.listen", "logging.config.stopListening",
   "os.getenv", "os.path.abspath", "os.path.basename", "os.path.dirname", "os.path.exists",
   "os.path.expanduser", "os.path.join", "json.dumps", "json.loads", "string.capwords"]

/-- The functions that are known and belong to no part of the log. -/
def innerFunctions : List String :=
  ["abs", "bin", "callable", "chr", "format", "getattr", "hash", "hex", "input", "len",
   "max", "min", "open", "ord", "print", "repr", "round", "sorted", "sum"].map ("builtins." ++ ·)
    ++ ["os.getcwd", "os.getpid", "time.asctime", "time.ctime", "time.gmtime", "time.localtime",
      "time.monotonic", "time.sleep", "time.strftime", "time.time", "math.ceil", "math.floor",
      "math.sqrt", "sys.exit", "io.open"]

/-- The values of the log that are known by their names, besides those of the levels. -/
def logValues : List (String × Value) :=
  [("logging.BASIC_FORMAT", "%(levelname)s:%(name)s:%(message)s"),
   ("logging.raiseExceptions", .bool true), ("logging.logThreads", .bool true),
   ("logging.logProcesses", .bool true), ("logging.logMultiprocessing", .bool true),
   ("logging.config.DEFAULT_LOGGING_CONFIG_PORT", .int 9030),
   ("logging.handlers.DEFAULT_TCP_LOGGING_PORT", .int 9020),
   ("logging.handlers.DEFAULT_UDP_LOGGING_PORT", .int 9021),
   ("logging.handlers.DEFAULT_HTTP_LOGGING_PORT", .int 9022),
   ("logging.handlers.DEFAULT_SOAP_LOGGING_PORT", .int 9023),
   ("logging.handlers.SYSLOG_TCP_PORT", .int 514), ("logging.handlers.SYSLOG_UDP_PORT", .int 514)]

/-- The values of the system that are known by their names. -/
def systemValues : List (String × Value) :=
  [("sys.maxsize", .int 0x7FFFFFFFFFFFFFFF), ("sys.maxunicode", .int 0x10FFFF),
   ("sys.platform", "linux"), ("sys.byteorder", "little"),
   ("sys.dont_write_bytecode", .bool false), ("sys.float_repr_style", "short"),
   ("os.name", "posix"), ("os.sep", "/"), ("os.altsep", .null), ("os.extsep", "."),
   ("os.pathsep", ":"), ("os.curdir", "."), ("os.pardir", ".."), ("os.devnull", "/dev/null"),
   ("os.linesep", "\n"), ("os.path.sep", "/"), ("os.path.altsep", .null), ("os.path.extsep", "."),
   ("os.path.pathsep", ":"), ("os.path.curdir", "."), ("os.path.pardir", ".."),
   ("os.path.devnull", "/dev/null"), ("os.SEEK_SET", .int 0), ("os.SEEK_CUR", .int 1),
   ("os.SEEK_END", .int 2), ("io.SEEK_SET", .int 0), ("io.SEEK_CUR", .int 1),
   ("io.SEEK_END", .int 2), ("io.DEFAULT_BUFFER_SIZE", .int 8192)]

/-- Further values that are known by their names. -/
def plainValues : List (String × Value) :=
  [("builtins.True", .bool true), ("builtins.False", .bool false), ("builtins.None", .null),
   ("string.digits", "0123456789"), ("string.octdigits", "01234567"),
   ("string.hexdigits", "0123456789abcdefABCDEF"),
   ("string.ascii_lowercase", "abcdefghijklmnopqrstuvwxyz"),
   ("string.ascii_uppercase", "ABCDEFGHIJKLMNOPQRSTUVWXYZ"),
   ("string.ascii_letters", "abcdefghijklmnopqrstuvwxyzABCDEFGHIJKLMNOPQRSTUVWXYZ")]

/-- What is known under a name. -/
def known? (name : String) : Option Referent :=
  match LevelName.all.find? fun n => "logging." ++ n.text == name,
      (logValues ++ systemValues ++ plainValues).lookup name with
  | some n, _ => some (value (.int n.number))
  | none, some v => some (value v)
  | none, none =>
    if isModule name then some (thing name "module")
    else if classes.contains name then some (thing name classKind)
    else if functions.contains name then some (thing name "function")
    else if innerFunctions.contains name then some (thing name "builtin_function_or_method")
    else if streams.contains name then some (thing name streamKind)
    else none

/-- The part of a name behind its last point. -/
def lastPart (name : String) : String :=
  String.ofList ((Text.split '.' name.toList).getLastD [])

/-- A thing in writing. Of a function only its own name is told. -/
def shownThing (name kind : String) : String :=
  let last := lastPart name
  if kind = "module" then "<module '" ++ name ++ "' (built-in)>"
  else if kind = "function" then "<function " ++ last ++ ">"
  else if kind = "builtin_function_or_method" then "<built-in function " ++ last ++ ">"
  else if kind = streamKind then
    let isInput := last = "stdin" || last = "__stdin__"
    "<" ++ kind ++ " name='<" ++ String.ofList (last.toList.filter (· != '_')) ++ ">' mode='"
      ++ (if isInput then "r" else "w") ++ "' encoding='utf-8'>"
  else "<class '" ++ name ++ "'>"

end Referent
end TypeMismatch
