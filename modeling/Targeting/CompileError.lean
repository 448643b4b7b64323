import Targeting.Condition

/-!
# Why a tree does not compile

The first offence in a tree. Evaluation never fails; only compiling does.
-/

namespace Targeting

inductive CompileError where
  | notTree (found : Json)
  | notSubtrees (key : String) (found : Json)
  | notList (kind : Condition.Kind) (found : Json)
  | notText (kind : Condition.Kind) (found : Json)
  | badRecord (kind : Condition.Kind) (mismatch : Mismatch)
  | badPattern (kind : Condition.Kind) (source : String) (refusal : Pattern.Refusal)
  | unreadable (fault : Json.Fault) (text : String)

namespace CompileError

/-- The three families of offences in a tree, and texts that are not JSON. -/
inductive Family where
  | parse | criteria | pattern | json
  deriving DecidableEq

def family : CompileError → Family
  | .notTree _ => .parse
  | .notSubtrees .. | .notList .. | .notText .. | .badRecord .. => .criteria
  | .badPattern .. => .pattern
  | .unreadable .. => .json

def invalid (key reason : String) : String := "规则 '" ++ key ++ "' 的条件无效: " ++ reason

def message : CompileError → String
  | .notTree found => "条件树解析失败: 条件树必须是对象，实际为 " ++ found.typeName
  | .notSubtrees key found => invalid key ("期望子树数组，实际为 " ++ found.typeName)
  | .notList kind found => invalid kind.name ("期望数组，实际为 " ++ found.typeName)
  | .notText kind found => invalid kind.name ("期望字符串元素，实际为 " ++ found.typeName)
  | .badRecord kind mismatch => invalid kind.name mismatch.message
  | .badPattern kind source refusal =>
    "规则 '" ++ kind.name ++ "' 的正则表达式无效 '" ++ source ++ "': " ++
      refusal.message
  | .unreadable fault text => "JSON 序列化错误: " ++ fault.message text

def source? : CompileError → Option String
  | .badPattern _ _ refusal => some refusal.message
  | .unreadable fault text => some (fault.message text)
  | _ => none

end CompileError

end Targeting
