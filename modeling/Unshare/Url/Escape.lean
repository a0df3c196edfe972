import Unshare.Text.Percent

namespace Unshare.Url

-- Bytes that stand for themselves unless a part forbids them.
def isPlainByte (forbidden : List Char) (b : UInt8) : Bool :=
  0x20 ≤ b && b < 0x7F && !forbidden.contains (Text.Percent.byteChar b)

def fragmentForbidden : List Char := [' ', '"', '<', '>', '\x60']
def queryForbidden : List Char := [' ', '"', '#', '<', '>']
def webQueryForbidden : List Char := '\x27' :: queryForbidden
def pathForbidden : List Char := fragmentForbidden ++ ['#', '?', '\x7b', '\x7d']
def userForbidden : List Char :=
  pathForbidden ++ ['/', ':', ';', '=', '@', '[', '\\', ']', '^', '|']

-- Within one segment, what would end the segment or start an escape is forbidden too.
def segmentForbidden : List Char := pathForbidden ++ ['/', '%']
def webSegmentForbidden : List Char := segmentForbidden ++ ['\\']

def escape (forbidden : List Char) (cs : List Char) : String :=
  String.ofList (Text.Percent.encodeChars (isPlainByte forbidden) cs)

end Unshare.Url
