import Tategaki.Chapter.Converter
import Tategaki.Rule.Load

/-!
# 失敗の種類

利用者に示す失敗には、文面のほかに種類の名前がある。種類が報告されるものか、処理の全体を止めるもの
かも、ここで決まる。
-/

namespace Tategaki

/-- 走査の失敗の種類。 -/
def ScanError.kindName : ScanError → String
  | timeout _ _ => "ProcessingTimeoutError"
  | tooDeep _ _ _ => "RecursionDepthError"
  | budget _ => "RewriteBudgetExceededError"
  | transform _ => "TransformError"

/-- 積む場所に限りがある走査の失敗の種類。 -/
def StackError.kindName : StackError → String
  | scan e => e.kindName
  | exhausted => "RecursionError"

/-- 読み取りを続けられない事情の種類。 -/
def Interruption.kindName : Interruption → String
  | badValue _ => "ValueError"
  | overflow _ => "OverflowError"
  | unusableAction => "TypeError"
  | undecodable _ => "UnicodeDecodeError"
  | isDirectory _ => "IsADirectoryError"

/-- 読み書きの失敗の種類。 -/
def FileError.kindName : FileError → String
  | isDirectory _ => "IsADirectoryError"
  | notFound _ => "FileNotFoundError"
  | notDirectory _ => "NotADirectoryError"
  | fileExists _ => "FileExistsError"
  | undecodable _ => "UnicodeDecodeError"

/-- 変換の失敗の種類。 -/
def Chapter.ConvertError.kindName : Chapter.ConvertError → String
  | emptyHtml => "ValidationError"
  | titleNotText _ => "ValidationError"
  | scan e => e.kindName
  | exhausted => "GenerationError"
  | unreadable _ => "GenerationError"
  | malformed _ => "GenerationError"
  | unencodable _ => "UnicodeEncodeError"

/-- 規則の誤りの種類。 -/
def RuleError.kindName : String := "PatternValidationError"

/-- 上限の誤りの種類。 -/
def LimitsError.kindName : String := "ValidationError"

end Tategaki
