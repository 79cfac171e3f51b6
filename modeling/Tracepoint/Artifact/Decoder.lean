import Tracepoint.Artifact.DecoderTree
import Tracepoint.Schema.Alignment
import Tracepoint.Text.Quoted

/-!
# Decoder source

The decoders of all syscalls in Rust: each with its struct and its functions, then one type for
any of them and the function that chooses the decoder by the name of the event.
-/

set_option autoImplicit false

namespace Tracepoint.Artifact

/-- The Rust type of a struct field. -/
def FieldType.rust : FieldType → String
  | .value .buffer => "[u8; MAX_BUFFER_SIZE]"
  | .value .i32 => "i32"
  | .value .u32 => "u32"
  | .value .i64 => "i64"
  | .value .u64 => "u64"
  | .path => "String"

/-- The expression that fills a field at first. -/
def Initial.rust : Initial → String
  | .read .char => "read_buffer(payload)"
  | .read .s32 => "payload.get_i32_ne()"
  | .read .u32 => "payload.get_u32_ne()"
  | .read .s64 => "payload.get_i64_ne()"
  | .read .u64 => "payload.get_u64_ne()"
  | .emptyText => "String::new()"

/-- A statement after all fields are read. -/
def Statement.rust : Statement → String
  | .resolve pathField field =>
    "event." ++ pathField ++ " = ctx.resolve_fd_path(header.pid as u32, event." ++ field ++
      " as u32);"
  | .forget field => "ctx.forget_fd(header.pid as u32, event." ++ field ++ " as u32);"

/-- The expression of a field as text. -/
def Shown.rust : Shown → String
  | .plain field => "self." ++ field
  | .terminated field => "String::from_utf8_lossy(c_str(&self." ++ field ++ "))"
  | .bounded field => "String::from_utf8_lossy(ret_bounded(&self." ++ field ++ ", ret))"

/-- The expression of a value for a template. -/
def TemplateValue.rust : TemplateValue → String
  | .shown text => text.rust
  | .path pathField => "self." ++ pathField

/-- The placeholders of an argument in a template. -/
def Display.placeholders : Display → String
  | .quoted => "\x7b:?\x7d"
  | .withPath => "\x7b\x7d<\x7b\x7d>"
  | .plain => "\x7b\x7d"

/-- An argument in the list of arguments. -/
def ArgEntry.rust : ArgEntry → String
  | .quoted name text =>
    "(" ++ Text.Quoted.quote name ++ ", format!(\"" ++ Display.quoted.placeholders ++ "\", " ++
      text.rust ++ ")),"
  | .withPath name text pathField =>
    "(" ++ Text.Quoted.quote name ++ ", format!(\"" ++ Display.withPath.placeholders ++ "\", " ++
      text.rust ++ ", self." ++ pathField ++ ")),"
  | .plain name text =>
    "(" ++ Text.Quoted.quote name ++ ", " ++ text.rust ++ ".to_string()),"

/-- A field of the message. -/
def Export.rust : Export → String
  | .copied field => field ++ ": self." ++ field ++ ".to_vec(),"
  | .converted field => field ++ ": self." ++ field ++ ".into(),"

namespace DecoderTree

/-- The name of a function's argument; one that is not used is marked as such. -/
def binder (used : Bool) (name : String) : String :=
  if used then name else "_" ++ name

/-- The text of a template. -/
def templateText (template : List (String × Display)) : String :=
  String.join (template.map fun (label, display) => label ++ " " ++ display.placeholders ++ " ")

/-- The struct of a decoder. -/
def structLines (t : DecoderTree) : List String :=
  [ "",
    "/// `" ++ t.event ++ "` as decoded from the probe.",
    "#[derive(Clone, Debug, PartialEq, Eq)]",
    "pub struct " ++ t.typeName ++ " \x7b"] ++
  t.fields.map (fun (name, ty) => "    pub " ++ name ++ ": " ++ ty.rust ++ ",") ++
  ["\x7d"]

/-- The constants and the decoding function of a decoder. -/
def decodeLines (t : DecoderTree) : List String :=
  [ "",
    "impl " ++ t.typeName ++ " \x7b",
    "    pub const NAME: &'static str = " ++ Text.Quoted.quote t.event ++ ";",
    "    pub const ARG_NAMES: &'static [&'static str] = &[" ++
      ", ".intercalate (t.argNames.map Text.Quoted.quote) ++ "];",
    "    /// Bytes following the common header.",
    "    pub const PAYLOAD_SIZE: usize = " ++ toString t.payloadSize ++ ";",
    "",
    "    pub fn decode(",
    "        " ++ binder t.usesHeader "header" ++ ": &Header,",
    "        payload: &mut &[u8],",
    "        " ++ binder t.usesContext "ctx" ++ ": &Context,",
    "    ) -> Result<Self, DecodeError> \x7b",
    "        ensure_payload(Self::NAME, payload, Self::PAYLOAD_SIZE)?;",
    "",
    "        let " ++ (if t.usesHeader then "mut event" else "event") ++ " = Self \x7b"] ++
  t.initials.map (fun (name, initial) => "            " ++ name ++ ": " ++ initial.rust ++ ",") ++
  ["        \x7d;"] ++
  (if t.usesHeader then [""] else []) ++
  t.resolutions.map (fun s => "        " ++ s.rust) ++
  t.forgets.map (fun s => "        " ++ s.rust) ++
  [ "",
    "        Ok(event)",
    "    \x7d",
    "\x7d"]

/-- The function that shows all of an event. -/
def renderLines (t : DecoderTree) : List String :=
  [ "    fn render(&self, " ++ binder t.usesReturn "ret" ++ ": i64) -> String \x7b",
    "        format!(",
    "            " ++ Text.Quoted.quote (templateText t.template) ++ ","] ++
  t.values.map (fun v => "            " ++ v.rust ++ ",") ++
  [ "        )",
    "    \x7d",
    ""]

/-- The function that gives one argument. -/
def argLines (t : DecoderTree) : List String :=
  [ "    fn arg(&self, n: usize, " ++ binder t.usesReturn "ret" ++
      ": i64) -> Result<String, ArgError> \x7b",
    "        match n \x7b"] ++
  t.arms.map (fun (position, text) =>
    "            " ++ toString position ++ " => Ok(" ++ text.rust ++ ".to_string()),") ++
  [ "            _ => Err(ArgError::OutOfRange \x7b",
    "                event: Self::NAME,",
    "                index: n,",
    "            \x7d),",
    "        \x7d",
    "    \x7d",
    ""]

/-- The function that lists the arguments. -/
def argsLines (t : DecoderTree) : List String :=
  [ "    fn args(&self, " ++ binder t.usesReturn "ret" ++
      ": i64) -> Vec<(&'static str, String)> \x7b",
    "        vec!["] ++
  t.entries.map (fun e => "            " ++ e.rust) ++
  [ "        ]",
    "    \x7d",
    ""]

/-- The function that exports an event. -/
def metricLines (t : DecoderTree) : List String :=
  [ "    fn metric(&self) -> Option<Metric> \x7b",
    "        Some(Metric \x7b",
    "            event: Some(metric::Event::" ++ t.typeName ++ "(" ++ t.message ++ " \x7b"] ++
  t.exports.map (fun e => "                " ++ e.rust) ++
  [ "            \x7d)),",
    "            ..Default::default()",
    "        \x7d)",
    "    \x7d"]

/-- The functions of a decoder that show and export an event. -/
def traceLines (t : DecoderTree) : List String :=
  ["", "impl TraceEvent for " ++ t.typeName ++ " \x7b"] ++
  t.renderLines ++ t.argLines ++ t.argsLines ++ t.metricLines ++
  ["\x7d"]

/-- All lines of a decoder. -/
def lines (t : DecoderTree) : List String :=
  t.structLines ++ t.decodeLines ++ t.traceLines

end DecoderTree

/-! ## Any of the syscalls -/

/-- A function that hands a call on to the event inside. -/
def delegateLines (syscalls : List (Syscall DecoderType)) (call : String) : List String :=
  ["        match self \x7b"] ++
  syscalls.map (fun s => "            SyscallEvent::" ++ s.label ++ "(event) => event." ++ call ++ ",") ++
  ["        \x7d"]

/-- The type of any traced syscall. -/
def syscallEventLines (syscalls : List (Syscall DecoderType)) : List String :=
  [ "",
    "/// Any of the traced syscalls.",
    "#[derive(Clone, Debug, PartialEq, Eq)]",
    "pub enum SyscallEvent \x7b"] ++
  syscalls.map (fun s => "    " ++ s.label ++ "(" ++ s.typeName ++ "),") ++
  [ "\x7d",
    "",
    "impl SyscallEvent \x7b",
    "    pub fn name(&self) -> &'static str \x7b",
    "        match self \x7b"] ++
  syscalls.map (fun s =>
    "            SyscallEvent::" ++ s.label ++ "(_) => " ++ s.typeName ++ "::NAME,") ++
  [ "        \x7d",
    "    \x7d",
    "\x7d",
    "",
    "impl TraceEvent for SyscallEvent \x7b",
    "    fn render(&self, ret: i64) -> String \x7b"] ++
  delegateLines syscalls "render(ret)" ++
  [ "    \x7d",
    "",
    "    fn arg(&self, n: usize, ret: i64) -> Result<String, ArgError> \x7b"] ++
  delegateLines syscalls "arg(n, ret)" ++
  [ "    \x7d",
    "",
    "    fn args(&self, ret: i64) -> Vec<(&'static str, String)> \x7b"] ++
  delegateLines syscalls "args(ret)" ++
  [ "    \x7d",
    "",
    "    fn metric(&self) -> Option<Metric> \x7b"] ++
  delegateLines syscalls "metric()" ++
  [ "    \x7d",
    "\x7d"]

/-- The function that chooses a decoder by the name of the event. -/
def dispatchLines (syscalls : List (Syscall DecoderType)) : List String :=
  [ "",
    "/// Decodes the payload of a traced syscall; `None` if `header` names",
    "/// an event that is not one of them.",
    "pub fn decode_syscall(",
    "    header: &Header,",
    "    payload: &mut &[u8],",
    "    ctx: &Context,",
    ") -> Option<Result<SyscallEvent, DecodeError>> \x7b",
    "    let event = match header.name.as_str() \x7b"] ++
  syscalls.map (fun s =>
    "        " ++ Text.Quoted.quote s.name ++ " => " ++ s.typeName ++
      "::decode(header, payload, ctx).map(SyscallEvent::" ++ s.label ++ "),") ++
  [ "        _ => return None,",
    "    \x7d;",
    "",
    "    Some(event)",
    "\x7d"]

/-- The lines of the decoder source of schemas. -/
def decoderLines (schemas : Schemas) : List String :=
  banner ++
  (DecoderTree.ofSyscalls schemas.decoder schemas.record schemas.wire).flatMap DecoderTree.lines ++
  syscallEventLines schemas.decoder ++
  dispatchLines schemas.decoder

/-- The decoder source of aligned schemas. -/
def decoderSource (schemas : Schemas) : Except AlignmentError String :=
  match schemas.checkAligned with
  | .error e => .error e
  | .ok () => .ok (unlines (decoderLines schemas))

end Tracepoint.Artifact
