import ShaderUniforms.Native.Call
import ShaderUniforms.Session.Basic

/-!
# Handles

The user of a context or of a function table has it through a handle.  A handle can
be copied, and from then on there is one more to go on with.  Each handle is kept
with what it stands for, so that copies could come to differ; all of them make their
calls to the same driver.
-/

namespace ShaderUniforms

/-- Handles, of which one is in use. -/
structure Handles (alpha : Type) where
  all : List alpha
  current : Fin all.length

/-- What a step does with the handles. -/
inductive HandleMove where
  | stay
  /-- Copies the handle in use and goes on with the copy. -/
  | clone
  /-- Goes on with an earlier handle, if there is one of this number. -/
  | resume (n : Nat)
  deriving DecidableEq

namespace Handles

variable {alpha : Type}

def single (x : alpha) : Handles alpha where
  all := [x]
  current := ⟨0, Nat.one_pos⟩

def get (h : Handles alpha) : alpha :=
  h.all.get h.current

def clone (copy : alpha -> alpha) (h : Handles alpha) : Handles alpha where
  all := h.all ++ [copy h.get]
  current := ⟨h.all.length, by simp⟩

def resume (n : Nat) (h : Handles alpha) : Handles alpha :=
  if hn : n < h.all.length then ⟨h.all, ⟨n, hn⟩⟩ else h

def move (copy : alpha -> alpha) (h : Handles alpha) : HandleMove -> Handles alpha
  | .stay => h
  | .clone => h.clone copy
  | .resume n => h.resume n

end Handles

/-- What the handles stand for, and the calls that were made through any of them. -/
structure HandleBackend (alpha : Type) where
  handles : Handles alpha
  issued : Journal NativeCall := {}

namespace HandleBackend

variable {alpha : Type}

def single (x : alpha) : HandleBackend alpha where
  handles := .single x

/-- The state after a step that had the outcome and moved between handles. -/
def after (b : HandleBackend alpha) (copy : alpha -> alpha) (o : Outcome NativeCall Reply)
    (move : HandleMove) : Response × HandleBackend alpha :=
  (o.response,
    { handles := b.handles.move copy move
      issued := b.issued.append o.calls })

def drain (b : HandleBackend alpha) : List NativeCall × HandleBackend alpha :=
  let (calls, left) := b.issued.take
  (calls, { handles := b.handles, issued := left })

end HandleBackend

end ShaderUniforms
