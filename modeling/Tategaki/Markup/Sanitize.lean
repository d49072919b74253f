import Tategaki.Markup.Clean
import Tategaki.Markup.Reader

/-!
# 章の印付けを整える

外から来た印付けを、組版が扱う要素だけに整える。まず木に読み、中身が文章でない要素を除いて書き出し、
それを濾す。
-/

namespace Tategaki.Markup

/-- 中身ごと除く要素。 -/
def droppedNames : List String :=
  ["script", "style", "noscript", "template", "iframe", "object", "embed", "svg", "math"]

/-- 章の印付けを整える。 -/
def sanitize (s : Text) : Except ReadError Text :=
  (read s).map fun tree => clean (write (tree.without droppedNames))

end Tategaki.Markup
