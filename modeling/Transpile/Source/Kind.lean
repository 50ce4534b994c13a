/-! The classes of nodes in a source tree and the fields of each, in the order in which they are
walked. Type comments, type aliases and the parameters of types have no classes here. -/

namespace Transpile.Source

inductive Op where
  | add | sub | mult | matMult | div | mod | pow | lShift | rShift | bitOr | bitXor | bitAnd
  | floorDiv | and | or | invert | not | uAdd | uSub | eq | notEq | lt | ltE | gt | gtE | is
  | isNot | isIn | notIn
  deriving DecidableEq, Repr

/-- How a target or a name is used. -/
inductive Use where
  | load | store | del
  deriving DecidableEq, Repr

inductive Kind where
  | module | interactive | expression | functionDef | asyncFunctionDef | classDef | returnStmt
  | deleteStmt | assign | augAssign | annAssign | forStmt | asyncFor | whileStmt | ifStmt | withStmt
  | asyncWith | matchStmt | matchCase | matchValue | matchSingleton | matchSequence | matchMapping
  | matchClass | matchStar | matchAs | matchOr | raiseStmt | tryStmt | tryStar | assertStmt
  | importStmt | importFrom | globalStmt | nonlocalStmt | exprStmt | passStmt | breakStmt
  | continueStmt
  | boolOp | namedExpr | binOp | unaryOp | lambda | ifExp | dict | set | listComp | setComp
  | dictComp | generatorExp | awaitExpr | yieldExpr | yieldFrom | compare | call | formattedValue
  | joinedStr | constant | attr | subscript | starred | name | list | tuple | slice
  | comprehension | exceptHandler | arguments | arg | keyword | alias | withItem | num | str
  | bytes | nameConstant | ellipsis | index | extSlice
  | op (o : Op)
  | use (u : Use)
  deriving DecidableEq, Repr

def Op.all : List Op := [
  .add, .sub, .mult, .matMult, .div, .mod, .pow, .lShift, .rShift, .bitOr, .bitXor, .bitAnd,
  .floorDiv, .and, .or, .invert, .not, .uAdd, .uSub, .eq, .notEq, .lt, .ltE, .gt, .gtE, .is,
  .isNot, .isIn, .notIn]

def Op.className : Op → String
  | .add => "Add"
  | .sub => "Sub"
  | .mult => "Mult"
  | .matMult => "MatMult"
  | .div => "Div"
  | .mod => "Mod"
  | .pow => "Pow"
  | .lShift => "LShift"
  | .rShift => "RShift"
  | .bitOr => "BitOr"
  | .bitXor => "BitXor"
  | .bitAnd => "BitAnd"
  | .floorDiv => "FloorDiv"
  | .and => "And"
  | .or => "Or"
  | .invert => "Invert"
  | .not => "Not"
  | .uAdd => "UAdd"
  | .uSub => "USub"
  | .eq => "Eq"
  | .notEq => "NotEq"
  | .lt => "Lt"
  | .ltE => "LtE"
  | .gt => "Gt"
  | .gtE => "GtE"
  | .is => "Is"
  | .isNot => "IsNot"
  | .isIn => "In"
  | .notIn => "NotIn"

def Use.className : Use → String
  | .load => "Load"
  | .store => "Store"
  | .del => "Del"

namespace Kind

def className : Kind → String
  | .module => "Module"
  | .interactive => "Interactive"
  | .expression => "Expression"
  | .functionDef => "FunctionDef"
  | .asyncFunctionDef => "AsyncFunctionDef"
  | .classDef => "ClassDef"
  | .returnStmt => "Return"
  | .deleteStmt => "Delete"
  | .assign => "Assign"
  | .augAssign => "AugAssign"
  | .annAssign => "AnnAssign"
  | .forStmt => "For"
  | .asyncFor => "AsyncFor"
  | .whileStmt => "While"
  | .ifStmt => "If"
  | .withStmt => "With"
  | .asyncWith => "AsyncWith"
  | .matchStmt => "Match"
  | .matchCase => "match_case"
  | .matchValue => "MatchValue"
  | .matchSingleton => "MatchSingleton"
  | .matchSequence => "MatchSequence"
  | .matchMapping => "MatchMapping"
  | .matchClass => "MatchClass"
  | .matchStar => "MatchStar"
  | .matchAs => "MatchAs"
  | .matchOr => "MatchOr"
  | .raiseStmt => "Raise"
  | .tryStmt => "Try"
  | .tryStar => "TryStar"
  | .assertStmt => "Assert"
  | .importStmt => "Import"
  | .importFrom => "ImportFrom"
  | .globalStmt => "Global"
  | .nonlocalStmt => "Nonlocal"
  | .exprStmt => "Expr"
  | .passStmt => "Pass"
  | .breakStmt => "Break"
  | .continueStmt => "Continue"
  | .boolOp => "BoolOp"
  | .namedExpr => "NamedExpr"
  | .binOp => "BinOp"
  | .unaryOp => "UnaryOp"
  | .lambda => "Lambda"
  | .ifExp => "IfExp"
  | .dict => "Dict"
  | .set => "Set"
  | .listComp => "ListComp"
  | .setComp => "SetComp"
  | .dictComp => "DictComp"
  | .generatorExp => "GeneratorExp"
  | .awaitExpr => "Await"
  | .yieldExpr => "Yield"
  | .yieldFrom => "YieldFrom"
  | .compare => "Compare"
  | .call => "Call"
  | .formattedValue => "FormattedValue"
  | .joinedStr => "JoinedStr"
  | .constant => "Constant"
  | .attr => "Attribute"
  | .subscript => "Subscript"
  | .starred => "Starred"
  | .name => "Name"
  | .list => "List"
  | .tuple => "Tuple"
  | .slice => "Slice"
  | .comprehension => "comprehension"
  | .exceptHandler => "ExceptHandler"
  | .arguments => "arguments"
  | .arg => "arg"
  | .keyword => "keyword"
  | .alias => "alias"
  | .withItem => "withitem"
  | .num => "Num"
  | .str => "Str"
  | .bytes => "Bytes"
  | .nameConstant => "NameConstant"
  | .ellipsis => "Ellipsis"
  | .index => "Index"
  | .extSlice => "ExtSlice"
  | .op o => o.className
  | .use u => u.className

/-- The kinds that are neither operators nor uses. -/
def plain : List Kind := [
  .module, .interactive, .expression, .functionDef, .asyncFunctionDef, .classDef, .returnStmt,
  .deleteStmt, .assign, .augAssign, .annAssign, .forStmt, .asyncFor, .whileStmt, .ifStmt, .withStmt,
  .asyncWith, .matchStmt, .matchCase, .matchValue, .matchSingleton, .matchSequence, .matchMapping,
  .matchClass, .matchStar, .matchAs, .matchOr, .raiseStmt, .tryStmt, .tryStar, .assertStmt,
  .importStmt, .importFrom, .globalStmt, .nonlocalStmt, .exprStmt, .passStmt, .breakStmt,
  .continueStmt,
  .boolOp, .namedExpr, .binOp, .unaryOp, .lambda, .ifExp, .dict, .set, .listComp, .setComp,
  .dictComp, .generatorExp, .awaitExpr, .yieldExpr, .yieldFrom, .compare, .call, .formattedValue,
  .joinedStr, .constant, .attr, .subscript, .starred, .name, .list, .tuple, .slice,
  .comprehension, .exceptHandler, .arguments, .arg, .keyword, .alias, .withItem, .num, .str,
  .bytes, .nameConstant, .ellipsis, .index, .extSlice]

def all : List Kind :=
  plain ++ Op.all.map Kind.op ++ [Use.load, .store, .del].map Kind.use

def ofName? (s : String) : Option Kind := all.find? fun k => k.className = s

def fields : Kind → List String
  | .module | .interactive | .expression => ["body"]
  | .functionDef | .asyncFunctionDef => ["name", "args", "body", "decorator_list", "returns"]
  | .classDef => ["name", "bases", "keywords", "body", "decorator_list"]
  | .returnStmt | .matchValue | .matchSingleton | .exprStmt | .awaitExpr | .yieldExpr | .yieldFrom
  | .constant | .nameConstant | .index => ["value"]
  | .deleteStmt => ["targets"]
  | .assign => ["targets", "value"]
  | .augAssign => ["target", "op", "value"]
  | .annAssign => ["target", "annotation", "value"]
  | .forStmt | .asyncFor => ["target", "iter", "body", "orelse"]
  | .whileStmt | .ifStmt | .ifExp => ["test", "body", "orelse"]
  | .withStmt | .asyncWith => ["items", "body"]
  | .matchStmt => ["subject", "cases"]
  | .matchCase => ["pattern", "guard", "body"]
  | .matchSequence | .matchOr => ["patterns"]
  | .matchMapping => ["keys", "patterns", "rest"]
  | .matchClass => ["cls", "patterns", "kwd_attrs", "kwd_patterns"]
  | .matchStar => ["name"]
  | .matchAs => ["pattern", "name"]
  | .raiseStmt => ["exc", "cause"]
  | .tryStmt | .tryStar => ["body", "handlers", "orelse", "finalbody"]
  | .assertStmt => ["test", "msg"]
  | .importStmt | .globalStmt | .nonlocalStmt => ["names"]
  | .importFrom => ["module", "names", "level"]
  | .boolOp => ["op", "values"]
  | .namedExpr => ["target", "value"]
  | .binOp => ["left", "op", "right"]
  | .unaryOp => ["op", "operand"]
  | .lambda => ["args", "body"]
  | .dict => ["keys", "values"]
  | .set => ["elts"]
  | .listComp | .setComp | .generatorExp => ["elt", "generators"]
  | .dictComp => ["key", "value", "generators"]
  | .compare => ["left", "ops", "comparators"]
  | .call => ["func", "args", "keywords"]
  | .formattedValue => ["value", "format_spec"]
  | .joinedStr => ["values"]
  | .attr => ["value", "attr", "ctx"]
  | .subscript => ["value", "slice", "ctx"]
  | .starred => ["value", "ctx"]
  | .name => ["id", "ctx"]
  | .list | .tuple => ["elts", "ctx"]
  | .slice => ["lower", "upper", "step"]
  | .comprehension => ["target", "iter", "ifs", "is_async"]
  | .exceptHandler => ["type", "name", "body"]
  | .arguments =>
    ["posonlyargs", "args", "vararg", "kwonlyargs", "kw_defaults", "kwarg", "defaults"]
  | .arg => ["arg", "annotation"]
  | .keyword => ["arg", "value"]
  | .alias => ["name", "asname", "lineno", "col_offset", "end_lineno", "end_col_offset"]
  | .withItem => ["context_expr", "optional_vars"]
  | .num => ["n"]
  | .str | .bytes => ["s"]
  | .extSlice => ["dims"]
  | _ => []

/-- The fields that are empty, and not missing, when they are not given. -/
def optionalFields : Kind → List String
  | .functionDef | .asyncFunctionDef => ["returns"]
  | .returnStmt | .annAssign | .yieldExpr => ["value"]
  | .matchCase => ["guard"]
  | .matchMapping => ["rest"]
  | .matchStar => ["name"]
  | .matchAs => ["pattern", "name"]
  | .raiseStmt => ["exc", "cause"]
  | .assertStmt => ["msg"]
  | .importFrom => ["module", "level"]
  | .formattedValue => ["format_spec"]
  | .slice => ["lower", "upper", "step"]
  | .exceptHandler => ["type", "name"]
  | .arguments => ["vararg", "kwarg"]
  | .arg => ["annotation"]
  | .keyword => ["arg"]
  | .withItem => ["optional_vars"]
  | _ => []

end Kind

end Transpile.Source
