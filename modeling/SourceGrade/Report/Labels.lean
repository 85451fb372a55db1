import SourceGrade.Suggestion

/-!
# Labels

The words of a report in each locale.
-/

namespace SourceGrade

structure Labels where
  id : Text
  header : Text
  shitIndex : Text
  score : Text
  suggestions : Text
  /-- Stands in place of an empty list of suggestions. -/
  allClear : Text
  linesTooLong : Text
  insufficientComments : Text
  dangerousCalls : Text
  missingTests : Text
deriving DecidableEq

namespace Labels

def english : Labels where
  id := "en-US"
  header := "Code Quality Report"
  shitIndex := "💩 Shit Index"
  score := "✨ Score"
  suggestions := "🛠 Suggestions"
  allClear := "nothing to complain about, keep it up!"
  linesTooLong := "lines too long, consider splitting"
  insufficientComments := "insufficient comments"
  dangerousCalls := "dangerous calls"
  missingTests := "missing tests"

def chinese : Labels where
  id := "zh-CN"
  header := "代码质量报告"
  shitIndex := "💩 屎山指数"
  score := "✨ 综合得分"
  suggestions := "🛠 改进建议"
  allClear := "没啥要挑剔的，继续保持！"
  linesTooLong := "行太长，考虑拆分"
  insufficientComments := "缺少注释，别人看不懂"
  dangerousCalls := "危险调用"
  missingTests := "缺少测试"

/-- The supported locales. -/
def all : List Labels := [english, chinese]

/-- Taken for a locale that is not supported. -/
def fallback : Labels := chinese

def ofLocale (locale : Text) : Labels := (all.find? (·.id = locale)).getD fallback

/-- A suggestion in the words of the locale. -/
def message (labels : Labels) : Suggestion → Text
  | .linesTooLong => labels.linesTooLong
  | .insufficientComments => labels.insufficientComments
  | .dangerousCalls calls => labels.dangerousCalls ++ ": " ++ Text.join ", " calls
  | .missingTests => labels.missingTests

end Labels

end SourceGrade
