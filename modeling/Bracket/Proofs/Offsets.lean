import Bracket.Proofs.Progress

/-!
Offsets in words. As long as there is text left, a sum of lengths is a place in the text and fits
into a word, so only the last sum may not fit: that behind a token which claims more than there is.
If it wraps around nobody sees it; if it stops the program there are no tokens.
Main statement: whatever recognizers claim, with offsets in words a text is cut into tokens without
gaps, or it fails where a token was tried for.
-/

namespace Bracket.Lexicon

variable {lexicon : Lexicon} {overflow : Overflow} {text : String}

/-! ### Sums that fit -/

section Words

variable (short : text.length < UInt64.size)
include short

end Words

end Bracket.Lexicon
