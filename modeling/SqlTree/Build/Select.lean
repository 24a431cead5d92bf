import SqlTree.Tree.Basic

namespace SqlTree.Select

def ofFields (fields : List Field) : Select :=
  { ctes := [], distinct := false, fields := fields, source := none, joins := [], conditions := [],
    grouping := [], having := [], ordering := [], limit := none, offset := none }

inductive Call where
  | ctes (list : List Cte)
  | distinct
  | fields (list : List Field)
  | source (s : Source)
  | join (j : Join)
  | conditions (list : List Predicate)
  | grouping (list : List Field)
  | having (list : List Predicate)
  | ordering (list : List Field)
  | limit (n : Int64)
  | offset (n : Int64)

def call (s : Select) : Call → Select
  | .ctes list => { s with ctes := s.ctes ++ list }
  | .distinct => { s with distinct := true }
  | .fields list => { s with fields := s.fields ++ list }
  | .source source => { s with source := some source }
  | .join join => { s with joins := s.joins ++ [join] }
  | .conditions list => { s with conditions := s.conditions ++ list }
  | .grouping list => { s with grouping := s.grouping ++ list }
  | .having list => { s with having := s.having ++ list }
  | .ordering list => { s with ordering := s.ordering ++ list }
  | .limit n => { s with limit := some n }
  | .offset n => { s with offset := some n }

def calls (s : Select) (list : List Call) : Select := list.foldl call s

end SqlTree.Select
