import Courier.CodePoints.Alphabetic
import Courier.CodePoints.Numeric

/-!
# Letters and numbers
-/

namespace Courier.CodePoints

def isAlphanumeric (c : Char) : Bool := isAlphabetic c || isNumeric c

end Courier.CodePoints
