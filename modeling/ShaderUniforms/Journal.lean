/-!
# Journals

A journal keeps entries in the order in which they were written, until they are
taken out all at once.
-/

namespace ShaderUniforms

universe u

@[ext] structure Journal (alpha : Type u) where
  entries : List alpha := []

namespace Journal

variable {alpha : Type u}

def append (j : Journal alpha) (xs : List alpha) : Journal alpha :=
  ⟨j.entries ++ xs⟩

/-- Takes all entries out and leaves an empty journal. -/
def take (j : Journal alpha) : List alpha × Journal alpha :=
  (j.entries, {})

end Journal

end ShaderUniforms
