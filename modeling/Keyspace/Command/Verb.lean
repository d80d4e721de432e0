import Keyspace.Text.Case

namespace Keyspace

inductive Verb where
  | set
  | get
  | del
  | existing
  | expire
  | ttl
  | persist
  | lpush
  | rpush
  | lpop
  | lrange
  | sadd
  | smembers
  | sismember
  | hset
  | hget
  | hgetall
  | keys
  | info
  | flushall
  deriving DecidableEq

/-- At least so many arguments and, if there is a bound, at most so many. -/
structure Arity where
  least : Nat
  most : Option Nat
  deriving DecidableEq

def Arity.admits (a : Arity) (count : Int) : Bool :=
  a.least ≤ count && a.most.all fun (most : Nat) => count ≤ most

namespace Verb

/-- In the order of the help page. -/
def all : List Verb :=
  [set, get, del, existing, expire, ttl, persist, lpush, rpush, lpop, lrange, sadd, smembers,
    sismember, hset, hget, hgetall, keys, info, flushall]

def spelling : Verb → String
  | set => "SET"
  | get => "GET"
  | del => "DEL"
  | existing => "EXISTS"
  | expire => "EXPIRE"
  | ttl => "TTL"
  | persist => "PERSIST"
  | lpush => "LPUSH"
  | rpush => "RPUSH"
  | lpop => "LPOP"
  | lrange => "LRANGE"
  | sadd => "SADD"
  | smembers => "SMEMBERS"
  | sismember => "SISMEMBER"
  | hset => "HSET"
  | hget => "HGET"
  | hgetall => "HGETALL"
  | keys => "KEYS"
  | info => "INFO"
  | flushall => "FLUSHALL"

def arity : Verb → Arity
  | set => ⟨2, some 4⟩
  | get => ⟨1, some 1⟩
  | del => ⟨1, none⟩
  | existing => ⟨1, none⟩
  | expire => ⟨2, some 2⟩
  | ttl => ⟨1, some 1⟩
  | persist => ⟨1, some 1⟩
  | lpush => ⟨2, none⟩
  | rpush => ⟨2, none⟩
  | lpop => ⟨1, some 1⟩
  | lrange => ⟨3, some 3⟩
  | sadd => ⟨2, none⟩
  | smembers => ⟨1, some 1⟩
  | sismember => ⟨2, some 2⟩
  | hset => ⟨3, none⟩
  | hget => ⟨2, some 2⟩
  | hgetall => ⟨1, some 1⟩
  | keys => ⟨1, some 1⟩
  | info => ⟨0, some 1⟩
  | flushall => ⟨0, some 0⟩

def usage : Verb → String
  | set => "key value [EX seconds|PX milliseconds]"
  | get => "key"
  | del => "key [key ...]"
  | existing => "key [key ...]"
  | expire => "key seconds"
  | ttl => "key"
  | persist => "key"
  | lpush => "key value [value ...]"
  | rpush => "key value [value ...]"
  | lpop => "key"
  | lrange => "key start stop"
  | sadd => "key member [member ...]"
  | smembers => "key"
  | sismember => "key member"
  | hset => "key field value [field value ...]"
  | hget => "key field"
  | hgetall => "key"
  | keys => "pattern"
  | info => "[section]"
  | flushall => ""

/-- The verb of a name, in letters of either case. -/
def ofName? (name : String) : Option Verb :=
  all.find? fun v => v.spelling == Text.upper name

theorem spelling_of_ofName? {name : String} {v : Verb} (h : ofName? name = some v) :
    v.spelling = Text.upper name := by
  simpa using List.find?_some h

def spellings : List String := (all.map spelling).mergeSort (fun a b => decide (a ≤ b))

end Verb

end Keyspace
