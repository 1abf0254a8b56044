import RouteDoc.FileTree

/-!
What can go wrong, and how it is worded. An error names its cause; `Error.message` is the only place
where the wording is found.
-/

namespace RouteDoc

/-- Why something could not be read or listed. -/
inductive Cause where
  | fault (why : Fault)
  /-- The source file has failed before, for this reason. -/
  | failedBefore (why : Fault)
  | unknownPackage (importPath : String)
  | other (text : String)
  deriving Repr, DecidableEq

def Cause.message : Cause → String
  | .fault why => why.message
  | .failedBefore _ => "source file previously failed to load"
  | .unknownPackage importPath => "package not found: " ++ importPath
  | .other text => text

/-- What can go wrong between a project and its document. -/
inductive Error where
  /-- The routes could not be listed. -/
  | enumeration (text : String)
  /-- The route manifest is unusable. -/
  | manifest (path : Path) (text : String)
  /-- A handler's declaration could not be found. -/
  | locator (symbol : String) (text : String)
  /-- A source file could not be read. -/
  | sourceIo (path : Path) (cause : Cause)
  /-- The document, or what shows it, could not be written. -/
  | emission (text : String)
  | invalidArgument (text : String)
  /-- A folder or package could not be listed. -/
  | io (cause : Cause)
  deriving Repr, DecidableEq

namespace Error

def message : Error → String
  | .enumeration text => "路由表遍历失败: " ++ text
  | .manifest path text => "路由清单错误 " ++ path.toString ++ ": " ++ text
  | .locator symbol text => "无法定位处理函数 " ++ symbol ++ ": " ++ text
  | .sourceIo path cause => "源文件读取错误 " ++ path.toString ++ ": " ++ cause.message
  | .emission text => "文档输出错误: " ++ text
  | .invalidArgument text => "无效参数: " ++ text
  | .io cause => "IO 错误: " ++ cause.message

/-- Whether the error ends the whole generation rather than one route. -/
def isFatal : Error → Bool
  | .enumeration _ | .manifest _ _ | .emission _ => true
  | _ => false

/-- The cause below the error, where it has one. -/
def cause? : Error → Option Cause
  | .sourceIo _ cause | .io cause => some cause
  | _ => none

/-- The document could not be written as JSON. -/
def jsonEmission (text : String) : Error :=
  .emission ("JSON 序列化错误: " ++ text)

/-- The document could not be written as YAML. -/
def yamlEmission (text : String) : Error :=
  .emission ("YAML 序列化错误: " ++ text)

end Error

end RouteDoc
