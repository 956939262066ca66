import LetterMachine.Service.Server

namespace LetterMachine.Service

def defaultLimit : Int := 100000

/-- Answer a request, if it can be sent. Runs are limited to a number of steps, and JSON values are
as deep as the stack has room for. -/
def respond (limit : Int) (r : Request) : Except RequestFault Response :=
  (server 978).serve (application limit) r

end LetterMachine.Service
