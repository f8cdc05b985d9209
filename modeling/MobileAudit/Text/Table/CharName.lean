import MobileAudit.Text.Table.CharName.Ancient
import MobileAudit.Text.Table.CharName.Asian
import MobileAudit.Text.Table.CharName.EastAsian
import MobileAudit.Text.Table.CharName.Further
import MobileAudit.Text.Table.CharName.Notation
import MobileAudit.Text.Table.CharName.Signs
import MobileAudit.Text.Table.CharName.Western

namespace MobileAudit.Text.Table

/-! Names of characters.  Semicolons and line breaks divide the items of a table.  An item that
begins with an equals sign gives the code point of the next name, in hexadecimal digits; the others
are names of consecutive code points.  A name begins with the number of words that it has in common
with the name before it, followed by its other words. -/

def charNames : List String :=
  [westernNames, asianNames, signNames, eastAsianNames, ancientNames, notationNames]

end MobileAudit.Text.Table
