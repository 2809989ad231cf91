import Exemplar.Filter.Evaluate
import Exemplar.Filter.Grammar

/-! The filters that are defined by other filters. -/
namespace Exemplar.Filter.Standard

/-- Each definition may use itself and those before it. -/
def source : String :=
  "def null: [][0];
  def true: null == null;
  def false: null != null;
  def not: if . then false else true end;
  def empty: [][] as $x | $x;
  def nan: 0 / 0;
  def infinite: 1 / 0;
  def error(f): (f | error), .;
  def select(f): if f then . else empty end;
  def map(f): [.[] | f];
  def map_values(f): .[] |= f;
  def recurse(f): def rec: ., (f | rec); rec;
  def recurse: ..;
  def recurse(f; condition): recurse(f | select(condition));
  def values: select(. != null);
  def nulls: select(. == null);
  def booleans: select(type == \"boolean\");
  def numbers: select(type == \"number\");
  def strings: select(type == \"string\");
  def arrays: select(type == \"array\");
  def objects: select(type == \"object\");
  def iterables: select(type == \"array\" or type == \"object\");
  def scalars: select(type != \"array\" and type != \"object\");
  def add(f): reduce f as $x (null; . + $x);
  def add: add(.[]);
  def range($from; $to): range($from; $to; 1);
  def range($to): range(0; $to);
  def repeat(f): def rec: ., (f | rec); rec;
  def while(condition; f): def rec: if condition then ., (f | rec) else empty end; rec;
  def until(condition; f): def rec: if condition then . else f | rec end; rec;
  def first: .[0];
  def last: .[-1];
  def nth($n): .[$n];
  def nth(n; f): n as $n | first(skip($n; f));
  def isempty(f): first((f | false), true);
  def isvalid(f): try (f | true) catch false;
  def all(f; condition): isempty(first(f | condition and empty));
  def any(f; condition): isempty(first(f | condition or empty)) | not;
  def all(condition): all(.[]; condition);
  def any(condition): any(.[]; condition);
  def all: all(.);
  def any: any(.);
  def in(f): . as $key | f | has($key);
  def inside(f): . as $part | f | contains($part);
  def to_entries: [keys_unsorted[] as $k | \x7bkey: $k, value: .[$k]\x7d];
  def from_entries: map(\x7b(.key): .value\x7d) | add + \x7b\x7d;
  def with_entries(f): to_entries | map(f) | from_entries;
  def sort: sort_by(.);
  def min: min_by(.);
  def max: max_by(.);
  def unique_by(f): [group_by(f)[] | .[0]];
  def unique: unique_by(.);
  def del(f): f |= empty;
  def join($separator):
    reduce ((.[:-1][] | tostring + $separator), (.[-1:][] | tostring)) as $x (\"\"; . + $x);
  def flatten: [recurse(arrays | .[]) | select(type != \"array\")];
  def flatten($depth):
    if $depth > 0 then map(if type == \"array\" then flatten($depth - 1) else [.] end) | add
    else . end;
  def transpose: [range([.[] | length] | max // 0) as $i | [.[][$i]]];
  def walk(f): def rec: (.[]? |= rec) | f; rec;
  def ascii: [.] | implode;
  def debug: .;
  def debug(f): .;"

def definitions : List Definition :=
  (Grammar.readAll Grammar.definitions source).getD []

/-- The definitions in force, the last one first. -/
def scope : List Binding :=
  (definitions.map Binding.definition).reverse

/-- The names that every program may use. -/
def names : Scope where
  filters :=
    definitions.map (fun d => (d.name, d.parameters.length)) ++ Evaluate.special ++
      Builtin.all.map fun b => (b.name, b.arity)
  variableNames := []
  labels := []

end Exemplar.Filter.Standard
