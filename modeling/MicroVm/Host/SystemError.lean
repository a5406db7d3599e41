/-!
# Errors of the operating system

An error has a number and a text. The errors that files give have names here.
-/

namespace MicroVm.Host

structure SystemError where
  number : Nat
  text : String
  deriving DecidableEq, Repr

namespace SystemError

def message (error : SystemError) : String := s!"{error.text} (os error {error.number})"

def notFound : SystemError := ⟨2, "No such file or directory"⟩

def alreadyExists : SystemError := ⟨17, "File exists"⟩

def notDirectory : SystemError := ⟨20, "Not a directory"⟩

def isDirectory : SystemError := ⟨21, "Is a directory"⟩

def nameTooLong : SystemError := ⟨36, "File name too long"⟩

def notImplemented : SystemError := ⟨38, "Function not implemented"⟩

end SystemError

end MicroVm.Host
